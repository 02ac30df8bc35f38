import TableSchema.Proofs.Text.Recasing
import TableSchema.Proofs.Verification.Enclosure

/-!
Blocks written in other case. The body of a block is judged in upper case throughout, but the word
that opens it has to stand in capitals.
-/

namespace TableSchema.Verification

open Text Sql

variable {cs cs' body body' : List Char}

section Body

theorem hasMark_map_toUpper (cs : List Char) : hasMark (cs.map Char.toUpper) = hasMark cs := by
  induction cs with
  | nil => rfl
  | cons c cs ih =>
    have dollar (c : Char) : c.toUpper = '$' ↔ c = '$' := toUpper_eq_iff (by decide) c
    rw [List.map_cons, hasMark_cons, hasMark_cons, ih, List.head?_map]
    simp [dollar]

theorem textLines_map_toUpper (body : List Char) :
    textLines (body.map Char.toUpper) = (textLines body).map (List.map Char.toUpper) := by
  have strips : stripChars ∘ List.map Char.toUpper = List.map Char.toUpper ∘ stripChars :=
    funext stripChars_map_toUpper
  have empties : (fun line : List Char => !line.isEmpty) ∘ List.map Char.toUpper =
      fun line => !line.isEmpty := by
    funext line
    simp
  rw [textLines, textLines, lines_map_toUpper, List.map_map, strips, ← List.map_map,
    List.filter_map, empties]

theorem upperLines_of_recased (h : Recased body body') :
    (textLines body').map upperChars = (textLines body).map upperChars := by
  have upper (body : List Char) :
      (textLines (body.map Char.toUpper)).map upperChars = (textLines body).map upperChars := by
    rw [textLines_map_toUpper, List.map_map]
    exact List.map_congr_left fun line _ => upperChars_map_toUpper line
  rw [← upper body', h, upper body]

theorem IsSound.recased (sound : IsSound body) (h : Recased body body') : IsSound body' where
  unmarked := by
    rw [← hasMark_map_toUpper, h, hasMark_map_toUpper]
    exact sound.unmarked
  opened := by
    rw [upperLines_of_recased h]
    exact sound.opened
  closed := by
    rw [upperLines_of_recased h]
    exact sound.closed
  balanced := by
    rw [h.upperChars_eq]
    exact sound.balanced

end Body

section Frame

theorem Encloses.recased (h : Encloses cs body) (recased : Recased cs cs')
    (word : "DO".toList <+: cs') : ∃ body', Encloses cs' body' ∧ Recased body body' := by
  obtain ⟨blanks, gap, tail, nonempty, blank, space, mem, rfl⟩ := h
  have ending : IsCaseless ("\n$$".toList ++ tail) := by
    simp only [List.mem_cons, List.not_mem_nil, or_false] at mem
    rcases mem with rfl | rfl <;> decide
  obtain ⟨opening, others, rfl, opened, spaced⟩ := recased.append_inv
  obtain ⟨others, rfl, marked⟩ := spaced.caseless_append_inv blank.isCaseless
  obtain ⟨others, rfl, lined⟩ := marked.caseless_append_inv (by decide)
  obtain ⟨others, rfl, fed⟩ := lined.caseless_append_inv space.isCaseless
  obtain ⟨others, rfl, filled⟩ := fed.caseless_append_inv (a := ['\n']) (by decide)
  obtain ⟨body', others, rfl, same, closed⟩ := filled.append_inv
  obtain rfl := closed.eq_of_caseless ending
  have length : opening.length = "DO".toList.length := by
    simpa only [List.length_map] using congrArg List.length opened
  have within := List.prefix_of_prefix_length_le word (List.prefix_append ..) length.ge
  obtain rfl := within.eq_of_length length.symm
  exact ⟨body', ⟨blanks, gap, tail, nonempty, blank, space, mem, rfl⟩, same⟩

theorem prefix_of_encloses (h : Encloses cs body) : "DO".toList <+: cs := by
  obtain ⟨blanks, gap, tail, -, -, -, -, rfl⟩ := h
  exact List.prefix_append ..

theorem blockProblems_of_not_prefix (word : ¬ "DO".toList <+: cs) :
    blockProblems cs = [.malformedBlock] := by
  cases found : blockBody? cs with
  | none => rw [blockProblems, found]
  | some body => exact absurd (prefix_of_encloses (encloses_of_blockBody? found)) word

end Frame

namespace Verifier

theorem beginsWith_of_recased (phrase : String) {s s' : String}
    (h : Recased s.toList s'.toList) : beginsWith phrase s' = beginsWith phrase s := by
  rw [beginsWith, beginsWith, h.upperChars_eq]

/-- What becomes of a sound block in other case: it stays one as long as the word `DO` stands in
capitals, and is malformed otherwise. -/
theorem verify_recased (v : Verifier) {s s' : String} (accepted : v.AcceptsBlock s)
    (recased : Recased s.toList s'.toList) :
    (v.AcceptsBlock s' ↔ "DO".toList <+: (strip s').toList) ∧
      (¬ "DO".toList <+: (strip s').toList → (v.verify (.text s')).outcome =
        .ok (blockVerdict (strip s') [.malformedBlock])) := by
  rw [acceptsBlock_iff] at accepted
  obtain ⟨block, none⟩ := accepted
  obtain ⟨body, found, sound⟩ := (blockProblems_eq_nil_iff _).1 none
  have stripped : Recased (strip s).toList (strip s').toList := by
    simpa only [toList_strip] using recased.stripChars
  have block' : beginsWith "DO " (strip s') = true :=
    (beginsWith_of_recased "DO " stripped).trans block
  refine ⟨⟨fun accepted' => ?_, fun word => ?_⟩, fun word => ?_⟩
  · obtain ⟨-, none'⟩ := (acceptsBlock_iff v s').1 accepted'
    obtain ⟨body', found', -⟩ := (blockProblems_eq_nil_iff _).1 none'
    exact prefix_of_encloses (encloses_of_blockBody? found')
  · obtain ⟨body', encloses, same⟩ := (encloses_of_blockBody? found).recased stripped word
    have none' := (blockProblems_eq_nil_iff_of_encloses encloses).2 (sound.recased same)
    exact (acceptsBlock_iff v s').2 ⟨block', none'⟩
  · rw [verify_text_outcome, judge_block v block', blockProblems_of_not_prefix word]

theorem verify_recased_of_smallBody :
    unreading.AcceptsBlock " DO $$\nbegin\nif not exists (X)\nend if;\nend\n$$;" ∧
      (unreading.verify (.text "dO $$\nBEGIN\nIF NOT EXISTS (x)\nEND IF;\nEND\n$$;")).outcome =
        .ok (blockVerdict "dO $$\nBEGIN\nIF NOT EXISTS (x)\nEND IF;\nEND\n$$;"
          [.malformedBlock]) := by
  have accepted (s : String) (block : beginsWith "DO " (strip s) = true)
      (sound : blockProblems (strip s).toList = []) : unreading.AcceptsBlock s :=
    (acceptsBlock_iff _ _).2 ⟨block, sound⟩
  have small : Recased " DO $$\nBEGIN\nIF NOT EXISTS (x)\nEND IF;\nEND\n$$;".toList
      " DO $$\nbegin\nif not exists (X)\nend if;\nend\n$$;".toList := by decide
  have mixed : Recased "DO $$\nBEGIN\nIF NOT EXISTS (x)\nEND IF;\nEND\n$$;".toList
      "dO $$\nBEGIN\nIF NOT EXISTS (x)\nEND IF;\nEND\n$$;".toList := by decide
  constructor
  · exact (verify_recased unreading (accepted _ (by decide) (by decide)) small).1.2 (by decide)
  · exact (verify_recased unreading (accepted _ (by decide) (by decide)) mixed).2 (by decide)

theorem not_forall_acceptsBlock_recased :
    ¬ ∀ (v : Verifier) (s s' : String), v.AcceptsBlock s → Recased s.toList s'.toList →
      v.AcceptsBlock s' := by
  intro accepts
  have capital : unreading.AcceptsBlock "DO $$\nBEGIN\nEND\n$$;" :=
    (acceptsBlock_iff _ _).2 ⟨by decide, by decide⟩
  have small := accepts unreading _ "do $$\nBEGIN\nEND\n$$;" capital (by decide)
  exact absurd ((acceptsBlock_iff _ _).1 small).2 (by decide)

end Verifier

end TableSchema.Verification

import Mathlib.Data.List.Forall2
import TableSchema.Proofs.Sql.Reading

/-!
Pairs of texts that a database reads with the same skeleton although their literals may hold
different contents. Such pairs are put together from such pairs.
-/

namespace TableSchema.Sql

/-- Both texts leave the same skeleton, and each leaves the contents listed for it. -/
def Parallel (a b : List Char) (as bs : List String) : Prop :=
  ∃ skeleton : List Char, Reads a skeleton as ∧ Reads b skeleton bs

namespace Parallel

variable {a a' b b' p : List Char} {as as' bs bs' : List String}

theorem of_reads {skeleton : List Char} (h : Reads a skeleton as) : Parallel a a as as :=
  ⟨skeleton, h, h⟩

theorem plain (hp : '\'' ∉ p) : Parallel p p [] [] :=
  of_reads (Reads.plain hp)

theorem literal (cs ds : List Char) :
    Parallel (Literal.quotedChars cs) (Literal.quotedChars ds) [String.ofList cs]
      [String.ofList ds] :=
  ⟨_, Reads.literal cs, Reads.literal ds⟩

theorem plain_append (hp : '\'' ∉ p) (h : Parallel a b as bs) :
    Parallel (p ++ a) (p ++ b) as bs := by
  obtain ⟨skeleton, ha, hb⟩ := h
  exact ⟨p ++ skeleton, ha.plain_append hp, hb.plain_append hp⟩

theorem append (h : Parallel a b as bs) (h' : Parallel a' b' as' bs')
    (start : a'.head? ≠ some '\'') (start' : b'.head? ≠ some '\'') :
    Parallel (a ++ a') (b ++ b') (as ++ as') (bs ++ bs') := by
  obtain ⟨skeleton, ha, hb⟩ := h
  obtain ⟨skeleton', ha', hb'⟩ := h'
  exact ⟨skeleton ++ skeleton', ha.append ha' start, hb.append hb' start'⟩

theorem append_plain_append (h : Parallel a b as bs) (hp : '\'' ∉ p) (some : p ≠ [])
    (h' : Parallel a' b' as' bs') :
    Parallel (a ++ (p ++ a')) (b ++ (p ++ b')) (as ++ as') (bs ++ bs') := by
  cases p with
  | nil => exact absurd rfl some
  | cons c cs =>
    have noQuote : c ≠ '\'' := fun quote => hp (by simp [quote])
    exact h.append (h'.plain_append hp) (by simpa using noQuote) (by simpa using noQuote)

theorem append_plain (h : Parallel a b as bs) (hp : '\'' ∉ p) :
    Parallel (a ++ p) (b ++ p) as bs := by
  cases p with
  | nil => simpa using h
  | cons c cs =>
    have ended := h.append_plain_append hp (List.cons_ne_nil c cs) (plain List.not_mem_nil)
    simpa using ended

end Parallel

inductive ParallelParts : List String → List String → List String → List String → Prop
  | nil : ParallelParts [] [] [] []
  | cons {a b : String} {l l' as bs cs ds : List String} :
    Parallel a.toList b.toList as bs → ParallelParts l l' cs ds →
      ParallelParts (a :: l) (b :: l') (as ++ cs) (bs ++ ds)

theorem ParallelParts.map {α β : Type} {f : α → String} {g : β → String}
    {as : α → List String} {bs : β → List String} {xs : List α} {ys : List β}
    (h : List.Forall₂ (fun x y => Parallel (f x).toList (g y).toList (as x) (bs y)) xs ys) :
    ParallelParts (xs.map f) (ys.map g) (xs.flatMap as) (ys.flatMap bs) := by
  induction h with
  | nil => exact .nil
  | cons part _ ih => exact .cons part ih

theorem ParallelParts.intercalate {sep : String} (hs : '\'' ∉ sep.toList) (some : sep.toList ≠ [])
    {l l' cs ds : List String} (h : ParallelParts l l' cs ds) :
    Parallel (sep.intercalate l).toList (sep.intercalate l').toList cs ds := by
  induction h with
  | nil => exact Parallel.plain List.not_mem_nil
  | cons part rest ih =>
    cases rest with
    | nil => simpa using part
    | cons =>
      rw [String.intercalate_cons_cons, String.intercalate_cons_cons, String.append_assoc,
        String.append_assoc]
      simp only [String.toList_append]
      exact part.append_plain_append hs some ih

theorem read_of_parallel {a b : String} {as bs : List String}
    (h : Parallel a.toList b.toList as bs) :
    (read a).outside = true ∧ (read a).contents = as ∧
      (read b).skeleton = (read a).skeleton := by
  obtain ⟨skeleton, ha, hb⟩ := h
  rw [read_of_reads ha, read_of_reads hb]
  exact ⟨rfl, rfl, rfl⟩

end TableSchema.Sql

import InsertRouting.Proofs.Text.Boundary
import InsertRouting.Sql.Expression
import Mathlib.Data.List.SplitBy

namespace InsertRouting
namespace Text

/-!
# Reading literals by runs of quotes

A literal is read from left to right, two quotes at a time.  What comes out is best said for
whole runs of quotes: a run of `k` quotes is read as half as many, rounded up, and everything
else stays.  So writing undoes reading exactly when every run between the outer quotes is of
even length.  The outer quotes are found by bytes, and since they are one byte wide, what
stands between them consists of whole characters.
-/

/-- The quotes that a literal may be written with. -/
def literalQuotes : List Char :=
  ['\'', '"']

/-- The text is at least two bytes long and has the quote at either end. -/
structure Enclosed (quote : Char) (text : String) : Prop where
  size : 2 ≤ text.utf8ByteSize
  first : text.toList.head? = some quote
  last : text.toList.getLast? = some quote

/-- The text can be cut behind its first byte and in front of its last one, and this is what
stands between the cuts. -/
def IsInterior (text : String) (inner : List Char) : Prop :=
  ∃ first last, splitAtByte? 1 text.toList = some (first, inner ++ last) ∧
    splitAtByte? (text.utf8ByteSize - 1) text.toList = some (first ++ inner, last)

/-- The text with every maximal run of quotes brought to half its length, rounded up. -/
def halvedRuns (quote : Char) (text : List Char) : List Char :=
  (text.splitBy (· == ·)).flatMap fun run =>
    if quote ∈ run then List.replicate ((run.length + 1) / 2) quote else run

/-- The quote stands in the text in runs of even length only. -/
def EvenRuns (quote : Char) (text : List Char) : Prop :=
  ∀ run ∈ text.splitBy (· == ·), quote ∈ run → 2 ∣ run.length

section Runs

variable {quote c : Char} {rest : List Char}

/-- The first character begins a run that ends in front of another character. -/
theorem exists_run (c : Char) (rest : List Char) :
    ∃ count behind, c :: rest = List.replicate (count + 1) c ++ behind ∧
      behind.head? ≠ some c := by
  induction rest with
  | nil => exact ⟨0, [], rfl, by simp⟩
  | cons d rest ih =>
      by_cases hd : d = c
      · obtain ⟨count, behind, hsplit, hbehind⟩ := ih
        refine ⟨count + 1, behind, ?_, hbehind⟩
        rw [hd, hsplit]
        rfl
      · exact ⟨0, d :: rest, rfl, by simpa using hd⟩

/-- What holds of the empty text, and of a text with a run in front of it, holds of every
text. -/
@[elab_as_elim]
theorem runs_induction {motive : List Char → Prop} (nil : motive [])
    (run : ∀ (c : Char) (count : Nat) (rest : List Char), rest.head? ≠ some c →
      motive rest → motive (List.replicate (count + 1) c ++ rest))
    (text : List Char) : motive text := by
  cases text with
  | nil => exact nil
  | cons c tail =>
      obtain ⟨count, behind, hsplit, hbehind⟩ := exists_run c tail
      have hshorter : behind.length < tail.length + 1 := by
        rw [← List.length_cons, hsplit, List.length_append, List.length_replicate]
        omega
      rw [hsplit]
      exact run c count behind hbehind (runs_induction nil run behind)
termination_by text.length
decreasing_by exact hshorter

/-- A run in front of another character is split off. -/
theorem splitBy_run (count : Nat) (hrest : rest.head? ≠ some c) :
    (List.replicate (count + 1) c ++ rest).splitBy (· == ·) =
      List.replicate (count + 1) c :: rest.splitBy (· == ·) := by
  have hrun : (List.replicate (count + 1) c).splitBy (· == ·) =
      [List.replicate (count + 1) c] :=
    List.splitBy_of_isChain (by simp) (List.isChain_replicate_of_rel _ (beq_self_eq_true c))
  rw [List.splitBy_append, hrun, List.singleton_append]
  intro x hx y hy
  have hxc : x = c := List.eq_of_mem_replicate (List.mem_of_mem_getLast? hx)
  rw [hxc, beq_eq_false_iff_ne]
  rintro rfl
  exact hrest hy

theorem halvedRuns_run_self (count : Nat) (hrest : rest.head? ≠ some quote) :
    halvedRuns quote (List.replicate (count + 1) quote ++ rest) =
      List.replicate ((count + 1 + 1) / 2) quote ++ halvedRuns quote rest := by
  simp only [halvedRuns, splitBy_run count hrest, List.flatMap_cons, List.length_replicate]
  rw [if_pos (by simp)]

theorem halvedRuns_run_of_ne (hne : c ≠ quote) (count : Nat) (hrest : rest.head? ≠ some c) :
    halvedRuns quote (List.replicate (count + 1) c ++ rest) =
      List.replicate (count + 1) c ++ halvedRuns quote rest := by
  simp [halvedRuns, splitBy_run count hrest, hne.symm]

theorem evenRuns_run_iff (count : Nat) (hrest : rest.head? ≠ some c) :
    EvenRuns quote (List.replicate (count + 1) c ++ rest) ↔
      (quote = c → 2 ∣ count + 1) ∧ EvenRuns quote rest := by
  simp [EvenRuns, splitBy_run count hrest]

end Runs

section Halved

variable {quote c : Char} {rest : List Char}

/-- A run of quotes is read in pairs, and a last one without a partner stays. -/
theorem halved_replicate_self (hrest : rest.head? ≠ some quote) :
    ∀ count, halved quote (List.replicate count quote ++ rest) =
      List.replicate ((count + 1) / 2) quote ++ halved quote rest
  | 0 => rfl
  | 1 => by
      cases rest with
      | nil => rfl
      | cons d rest =>
          have hd : d ≠ quote := by simpa using hrest
          simp [halved, hd]
  | count + 2 => by
      have hpairs : (count + 2 + 1) / 2 = (count + 1) / 2 + 1 := by omega
      have hpair : halved quote (List.replicate (count + 2) quote ++ rest) =
          quote :: halved quote (List.replicate count quote ++ rest) := by
        simp [List.replicate_succ, halved]
      rw [hpair, halved_replicate_self hrest count, hpairs]
      rfl

theorem halved_replicate_of_ne (hne : c ≠ quote) (count : Nat) (rest : List Char) :
    halved quote (List.replicate count c ++ rest) =
      List.replicate count c ++ halved quote rest := by
  induction count with
  | zero => rfl
  | succ count ih =>
      rw [List.replicate_succ, List.cons_append, halved_cons_of_ne _ hne, ih]
      rfl

/-- Reading two quotes as one brings every run of quotes to half its length. -/
theorem halved_eq_halvedRuns (quote : Char) (text : List Char) :
    halved quote text = halvedRuns quote text := by
  induction text using runs_induction with
  | nil => rfl
  | run c count rest hrest ih =>
      by_cases hc : c = quote
      · subst hc
        rw [halved_replicate_self hrest, halvedRuns_run_self count hrest, ih]
      · rw [halved_replicate_of_ne hc, halvedRuns_run_of_ne hc count hrest, ih]

theorem doubled_append (quote : Char) (left right : List Char) :
    doubled quote (left ++ right) = doubled quote left ++ doubled quote right := by
  induction left with
  | nil => rfl
  | cons c left ih =>
      by_cases hc : c = quote <;> simp [doubled, hc, ih]

theorem doubled_replicate_self (quote : Char) (count : Nat) :
    doubled quote (List.replicate count quote) = List.replicate (2 * count) quote := by
  induction count with
  | zero => rfl
  | succ count ih =>
      rw [List.replicate_succ, doubled, if_pos rfl, ih, Nat.mul_succ]
      rfl

theorem doubled_replicate_of_ne (hne : c ≠ quote) (count : Nat) :
    doubled quote (List.replicate count c) = List.replicate count c := by
  induction count with
  | zero => rfl
  | succ count ih => rw [List.replicate_succ, doubled, if_neg hne, ih]

theorem head?_doubled (quote : Char) (text : List Char) :
    (doubled quote text).head? = text.head? := by
  cases text with
  | nil => rfl
  | cons c rest =>
      by_cases hc : c = quote <;> simp [doubled, hc]

/-- Writing leaves no run of quotes of odd length. -/
theorem evenRuns_doubled (quote : Char) (text : List Char) :
    EvenRuns quote (doubled quote text) := by
  induction text using runs_induction with
  | nil => simp [EvenRuns, doubled]
  | run c count rest hrest ih =>
      have hbehind : (doubled quote rest).head? ≠ some c := by rwa [head?_doubled]
      rw [doubled_append]
      by_cases hc : c = quote
      · subst hc
        rw [doubled_replicate_self, show 2 * (count + 1) = 2 * count + 1 + 1 by omega,
          evenRuns_run_iff _ hbehind]
        exact ⟨fun _ => ⟨count + 1, by omega⟩, ih⟩
      · rw [doubled_replicate_of_ne hc, evenRuns_run_iff _ hbehind]
        exact ⟨fun hquote => absurd hquote.symm hc, ih⟩

/-- Writing undoes reading where the quotes stand in runs of even length, and only there. -/
theorem doubled_halvedRuns_iff {text : List Char} :
    doubled quote (halvedRuns quote text) = text ↔ EvenRuns quote text := by
  constructor
  · intro hwritten
    rw [← hwritten]
    exact evenRuns_doubled quote _
  · intro heven
    induction text using runs_induction with
    | nil => rfl
    | run c count rest hrest ih =>
        rw [evenRuns_run_iff count hrest] at heven
        obtain ⟨hcount, hothers⟩ := heven
        by_cases hc : c = quote
        · subst hc
          obtain ⟨half, hhalf⟩ := hcount rfl
          have hquotes : (count + 1 + 1) / 2 = half := by omega
          rw [halvedRuns_run_self count hrest, doubled_append, doubled_replicate_self,
            ih hothers, hquotes, hhalf]
        · rw [halvedRuns_run_of_ne hc count hrest, doubled_append, doubled_replicate_of_ne hc,
            ih hothers]

end Halved

section Outer

variable {quote : Char} {text : String} {inner : List Char}

theorem utf8Size_of_mem_literalQuotes (hquote : quote ∈ literalQuotes) :
    quote.utf8Size = 1 := by
  rcases List.mem_cons.1 hquote with rfl | hdouble
  · rfl
  · obtain rfl := List.mem_singleton.1 hdouble
    rfl

/-- The quotes at the ends are two different ones, with a text between them. -/
theorem enclosed_iff (hquote : quote ∈ literalQuotes) :
    Enclosed quote text ↔ ∃ inner, text.toList = quote :: (inner ++ [quote]) := by
  have hsize := byteLength_toList text
  have hone := utf8Size_of_mem_literalQuotes hquote
  constructor
  · rintro ⟨htwo, hfirst, hlast⟩
    obtain ⟨rest, htext⟩ := List.head?_eq_some_iff.1 hfirst
    rw [htext] at hsize hlast
    cases rest with
    | nil =>
        -- A single quote is one byte long.
        simp only [byteLength, hone] at hsize
        omega
    | cons c rest =>
        rw [List.getLast?_cons_cons] at hlast
        obtain ⟨inner, hinner⟩ := List.getLast?_eq_some_iff.1 hlast
        exact ⟨inner, by rw [htext, hinner]⟩
  · rintro ⟨inner, htext⟩
    refine ⟨?_, by rw [htext]; rfl, by rw [htext, ← List.cons_append, List.getLast?_concat]⟩
    rw [← hsize, htext, byteLength, byteLength_append, byteLength, hone]
    omega

/-- Both cuts fall between characters, since the outer quotes are one byte wide. -/
theorem isInterior_of_toList_eq (hquote : quote ∈ literalQuotes)
    (htext : text.toList = quote :: (inner ++ [quote])) : IsInterior text inner := by
  have hone := utf8Size_of_mem_literalQuotes hquote
  have hsize : text.utf8ByteSize - 1 = 1 + byteLength inner := by
    rw [← byteLength_toList, htext, byteLength, byteLength_append, byteLength, byteLength, hone]
    omega
  refine ⟨[quote], [quote], ?_, ?_⟩
  · rw [splitAtByte?_eq_some_iff, htext]
    exact ⟨rfl, by simp [byteLength, hone]⟩
  · rw [splitAtByte?_eq_some_iff, htext, hsize]
    exact ⟨rfl, by simp [byteLength, hone]⟩

theorem interior?_eq_some_iff {text : List Char} :
    interior? quote text = some inner ↔ text = quote :: (inner ++ [quote]) := by
  constructor
  · intro hinterior
    cases text with
    | nil => cases hinterior
    | cons first rest =>
        rw [interior?] at hinterior
        split at hinterior
        · rename_i hends
          obtain ⟨rfl, hlast⟩ := hends
          obtain ⟨front, rfl⟩ := List.getLast?_eq_some_iff.1 hlast
          rw [List.dropLast_concat] at hinterior
          rw [Option.some.inj hinterior]
        · cases hinterior
  · rintro rfl
    simp [interior?]

/-- Only one of the quotes can stand at the beginning. -/
theorem unquoted_of_enclosed (hquote : quote ∈ literalQuotes) (inner : List Char) :
    unquoted (quote :: (inner ++ [quote])) = halved quote inner := by
  have hread : interior? quote (quote :: (inner ++ [quote])) = some inner :=
    interior?_eq_some_iff.2 rfl
  rcases List.mem_cons.1 hquote with rfl | hdouble
  · rw [unquoted, hread]
  · obtain rfl := List.mem_singleton.1 hdouble
    have hsingle : interior? '\'' ('"' :: (inner ++ ['"'])) = none := by
      rw [interior?, if_neg fun hends => absurd hends.1 (by decide)]
    rw [unquoted, hsingle]
    dsimp only
    rw [hread]

theorem unquoted_of_not_enclosed (hbare : ∀ quote ∈ literalQuotes, ¬ Enclosed quote text) :
    unquoted text.toList = text.toList := by
  have hnone : ∀ quote ∈ literalQuotes, interior? quote text.toList = none := by
    intro quote hquote
    rw [Option.eq_none_iff_forall_ne_some]
    intro inner hinterior
    exact hbare quote hquote
      ((enclosed_iff hquote).2 ⟨inner, interior?_eq_some_iff.1 hinterior⟩)
  rw [unquoted, hnone '\'' (by decide)]
  dsimp only
  rw [hnone '"' (by decide)]

end Outer

end Text

namespace Expression

/-- The value of a quoted text is the text.  The value of a literal between two equal quotes
is what stands between them, with every run of quotes brought to half its length, rounded up;
quoting it gives the literal back exactly when all of these runs are of even length.  Any
other text is its own value. -/
theorem literal_value_exact :
    (∀ quote ∈ Text.literalQuotes, ∀ text : String,
      (Expression.text (String.ofList (Text.quoted quote text.toList))).textValue? =
        some text) ∧
    (∀ quote ∈ Text.literalQuotes, ∀ text : String, Text.Enclosed quote text →
      ∃ (inner : List Char) (value : String), Text.IsInterior text inner ∧
        value.toList = Text.halvedRuns quote inner ∧
        (Expression.text text).textValue? = some value ∧
        (String.ofList (Text.quoted quote value.toList) = text ↔ Text.EvenRuns quote inner)) ∧
    ∀ text : String, (∀ quote ∈ Text.literalQuotes, ¬ Text.Enclosed quote text) →
      (Expression.text text).textValue? = some text := by
  refine ⟨?_, ?_, ?_⟩
  · intro quote hquote text
    rw [textValue?, String.toList_ofList, Text.quoted, Text.unquoted_of_enclosed hquote,
      Text.halved_doubled, String.ofList_toList]
  · intro quote hquote text henclosed
    obtain ⟨inner, htext⟩ := (Text.enclosed_iff hquote).1 henclosed
    refine ⟨inner, String.ofList (Text.halvedRuns quote inner),
      Text.isInterior_of_toList_eq hquote htext, String.toList_ofList, ?_, ?_⟩
    · rw [textValue?, htext, Text.unquoted_of_enclosed hquote, Text.halved_eq_halvedRuns]
    · rw [String.toList_ofList, ← Text.doubled_halvedRuns_iff, ← String.toList_inj,
        String.toList_ofList, htext, Text.quoted]
      simp
  · intro text hbare
    rw [textValue?, Text.unquoted_of_not_enclosed hbare, String.ofList_toList]

/-- Three single quotes are read as two and are not written again as three, the other quote
and a letter of two bytes stay, and a quote that stands alone is no literal. -/
theorem literal_value_exact_sample :
    (Expression.text (String.ofList (Text.quoted '"' "it\"s".toList))).textValue? =
      some "it\"s" ∧
    Text.Enclosed '\'' "'\"é'''s'" ∧
    (∃ (inner : List Char) (value : String), Text.IsInterior "'\"é'''s'" inner ∧
      value.toList = Text.halvedRuns '\'' inner ∧
      (Expression.text "'\"é'''s'").textValue? = some value ∧
      (String.ofList (Text.quoted '\'' value.toList) = "'\"é'''s'" ↔
        Text.EvenRuns '\'' inner)) ∧
    (Expression.text "'\"é'''s'").textValue? = some "\"é''s" ∧
    (∀ quote ∈ Text.literalQuotes, ¬ Text.Enclosed quote "'") ∧
    (Expression.text "'").textValue? = some "'" := by
  have henclosed : Text.Enclosed '\'' "'\"é'''s'" := ⟨by decide, by decide, by decide⟩
  have hbare : ∀ quote ∈ Text.literalQuotes, ¬ Text.Enclosed quote "'" := by
    intro quote _ hone
    exact absurd hone.size (by decide)
  obtain ⟨hquoted, hread, hother⟩ := literal_value_exact
  exact ⟨hquoted '"' (by decide) "it\"s", henclosed, hread '\'' (by decide) _ henclosed,
    by decide, hbare, hother "'" hbare⟩

end Expression

end InsertRouting

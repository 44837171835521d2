import InsertRouting.Proofs.Insert.BoundRow
import InsertRouting.Proofs.Text.Slice

namespace InsertRouting

/-!
# The text of a value

A value is read as the text that fills its bytes, or is refused because its offsets enclose
no text.  A string literal and an expression that cannot be evaluated are bound by this
text, both as a value of a row and as a generated key, so the two conversions of a value
succeed together, with the same payload, and fail together.
-/

/-- What a value is bound to, as a value of a row and as the source of a generated key: the
same parameter, the same literal, or the text that stands at its offsets. -/
inductive BoundAlike (sql : String) (segment : ExpressionSegment) :
    Expression → KeySource → Prop
  | placeholder (index : Nat) (hkind : segment.kind = .placeholder index) :
      BoundAlike sql segment (.placeholder index) (.placeholder index)
  | literal (value : Scalar) (hkind : segment.kind = .literal value) :
      BoundAlike sql segment (.literal value) (.value value)
  | text (source : String) (hkind : segment.kind = .text)
      (hsource : Text.StandsAt segment.start segment.stop sql source) :
      BoundAlike sql segment (.text source) (.raw source)
  | complex (source : String) (hkind : segment.kind = .complex)
      (hsource : Text.StandsAt segment.start segment.stop sql source) :
      BoundAlike sql segment (.ignored source) (.raw source)

namespace ExpressionSegment

variable {segment : ExpressionSegment} {sql : String}

theorem source_eq_ok_iff {text : String} :
    segment.source sql = .ok text ↔ Text.StandsAt segment.start segment.stop sql text := by
  rw [Text.standsAt_iff_slice?]
  unfold source
  cases hslice : Text.slice? segment.start segment.stop sql.toList with
  | none => simp
  | some middle => simp [← String.toList_inj]

/-- A value cannot be read for one of four reasons. -/
theorem source_eq_error_iff_outside {error : FillError} :
    segment.source sql = .error error ↔
      error = .expressionSpan segment.start segment.stop ∧
        (segment.stop < segment.start ∨ sql.utf8ByteSize ≤ segment.stop ∨
          Text.InsideCharacter segment.start sql.toList ∨
          Text.InsideCharacter (segment.stop + 1) sql.toList) := by
  rw [source_eq_error_iff, Text.slice?_eq_none_iff, Text.not_isSpan_iff,
    Text.byteLength_toList]
  exact and_comm

/-- What is made of the text of a value is made of the text at its offsets. -/
theorem exists_standsAt_of_map_source {wrap : String → Expression} {expression : Expression}
    (hmap : (segment.source sql).map wrap = .ok expression) :
    ∃ source, Text.StandsAt segment.start segment.stop sql source ∧
      expression = wrap source := by
  cases hsource : segment.source sql with
  | error error =>
      rw [hsource] at hmap
      cases hmap
  | ok source =>
      rw [hsource] at hmap
      exact ⟨source, source_eq_ok_iff.1 hsource, (Except.ok.inj hmap).symm⟩

/-- A value that could be converted is bound alike in both places. -/
theorem boundAlike_of_toExpression {expression : Expression}
    (hconverted : segment.toExpression sql = .ok expression) :
    BoundAlike sql segment expression (.ofExpression expression) := by
  unfold toExpression at hconverted
  cases hkind : segment.kind with
  | placeholder index =>
      rw [hkind] at hconverted
      cases hconverted
      exact .placeholder index hkind
  | literal value =>
      rw [hkind] at hconverted
      cases hconverted
      exact .literal value hkind
  | text =>
      rw [hkind] at hconverted
      obtain ⟨source, hsource, rfl⟩ := exists_standsAt_of_map_source hconverted
      exact .text source hkind hsource
  | complex =>
      rw [hkind] at hconverted
      obtain ⟨source, hsource, rfl⟩ := exists_standsAt_of_map_source hconverted
      exact .complex source hkind hsource

end ExpressionSegment

/-- The value cannot be read, and both conversions fail for it. -/
structure RefusedAlike (sql : String) (segment : ExpressionSegment) (column : Column) :
    Prop where
  kind : segment.kind = .text ∨ segment.kind = .complex
  source : segment.source sql = .error (.expressionSpan segment.start segment.stop)
  value : segment.toExpression sql = .error (.expressionSpan segment.start segment.stop)
  key : suppliedKey column segment sql =
    .error (.expressionSpan segment.start segment.stop)

/-- The two conversions of a value have the same outcome. -/
theorem boundAlike_or_refusedAlike (sql : String) (segment : ExpressionSegment)
    (column : Column) :
    (∃ expression source, BoundAlike sql segment expression source ∧
        segment.toExpression sql = .ok expression ∧
        suppliedKey column segment sql = .ok ⟨column, source⟩) ∨
      RefusedAlike sql segment column := by
  cases hconverted : segment.toExpression sql with
  | ok expression =>
      left
      refine ⟨expression, .ofExpression expression,
        ExpressionSegment.boundAlike_of_toExpression hconverted, rfl, ?_⟩
      rw [suppliedKey_eq, hconverted]
      rfl
  | error error =>
      right
      obtain ⟨hkind, hspan, rfl⟩ := ExpressionSegment.toExpression_eq_error_iff.1 hconverted
      refine ⟨hkind, ?_, hconverted, ?_⟩
      · exact ExpressionSegment.source_eq_error_iff.2
          ⟨Text.slice?_eq_none_iff.2 hspan, rfl⟩
      · rw [suppliedKey_eq, hconverted]
        rfl

/-- The value at the given bytes, as 64-bit words count them. -/
def ExpressionSegment.atWords (kind : ExpressionKind) (start stop : UInt64) :
    ExpressionSegment where
  kind := kind
  start := start.toNat
  stop := stop.toNat

/-- In a text that 64-bit words can count, the words behind a value that is read do not
wrap around. -/
theorem words_of_source {sql text : String} {kind : ExpressionKind} {start stop : UInt64}
    (hsize : sql.utf8ByteSize < UInt64.size)
    (hsource : (ExpressionSegment.atWords kind start stop).source sql = .ok text) :
    (stop + 1).toNat = stop.toNat + 1 ∧ (stop + 1 - start).toNat = text.utf8ByteSize := by
  have hpart := ExpressionSegment.source_eq_ok_iff.1 hsource
  have hlast : stop.toNat < sql.utf8ByteSize := hpart.stop_lt
  obtain ⟨hle, -, -, -, -, hlength⟩ := hpart
  have hordered : start.toNat ≤ stop.toNat := hle
  have hbytes : text.utf8ByteSize = stop.toNat - start.toNat + 1 := hlength
  have hnext : (stop + 1).toNat = stop.toNat + 1 := by
    rw [UInt64.toNat_add, UInt64.toNat_one]
    exact Nat.mod_eq_of_lt (Nat.lt_of_le_of_lt hlast hsize)
  have hbehind : start ≤ stop + 1 := by
    rw [UInt64.le_iff_toNat_le, hnext]
    omega
  refine ⟨hnext, ?_⟩
  rw [UInt64.toNat_sub_of_le _ _ hbehind, hnext, hbytes]
  omega

/-- What the spans of a text are read as. -/
structure SpansExact (sql : String) : Prop where
  /-- A value is read as the text that fills its bytes. -/
  source : ∀ (segment : ExpressionSegment) (text : String),
    segment.source sql = .ok text ↔ Text.StandsAt segment.start segment.stop sql text
  /-- At most one text fills them. -/
  unique : ∀ (start stop : Nat) (text other : String),
    Text.StandsAt start stop sql text → Text.StandsAt start stop sql other → text = other
  /-- Offsets in the wrong order, or past the end, or inside a character, are refused, and
  the error names them. -/
  refused : ∀ (segment : ExpressionSegment) (error : FillError),
    segment.source sql = .error error ↔
      error = .expressionSpan segment.start segment.stop ∧
        (segment.stop < segment.start ∨ sql.utf8ByteSize ≤ segment.stop ∨
          Text.InsideCharacter segment.start sql.toList ∨
          Text.InsideCharacter (segment.stop + 1) sql.toList)
  /-- The last 64-bit word is past the end of every text that these words can count. -/
  last_word : sql.utf8ByteSize < UInt64.size → ∀ segment : ExpressionSegment,
    segment.stop = UInt64.size - 1 →
      segment.source sql = .error (.expressionSpan segment.start segment.stop)
  /-- The end and the length of a value that is read can be counted in words. -/
  words : sql.utf8ByteSize < UInt64.size →
    ∀ (kind : ExpressionKind) (start stop : UInt64) (text : String),
      (ExpressionSegment.atWords kind start stop).source sql = .ok text →
        (stop + 1).toNat = stop.toNat + 1 ∧ (stop + 1 - start).toNat = text.utf8ByteSize
  /-- The two conversions of a value succeed with the same payload, or fail with the error
  about its offsets. -/
  converted : ∀ (segment : ExpressionSegment) (column : Column),
    (∃ expression source, BoundAlike sql segment expression source ∧
        segment.toExpression sql = .ok expression ∧
        suppliedKey column segment sql = .ok ⟨column, source⟩) ∨
      RefusedAlike sql segment column
  /-- Two values in a row are read as the two parts of the value over both. -/
  adjacent : ∀ (first second : ExpressionSegment) (kind : ExpressionKind)
    (left right : String), second.start = first.stop + 1 →
      first.source sql = .ok left → second.source sql = .ok right →
        (ExpressionSegment.mk kind first.start second.stop).source sql = .ok (left ++ right)

/-- A value is read exactly if whole characters fill its bytes, and then as these
characters, wherever it is converted. -/
theorem spans_exact (sql : String) : SpansExact sql where
  source _ _ := ExpressionSegment.source_eq_ok_iff
  unique _ _ _ _ htext hother := htext.unique hother
  refused _ _ := ExpressionSegment.source_eq_error_iff_outside
  last_word hsize segment hlast := by
    refine ExpressionSegment.source_eq_error_iff_outside.2 ⟨rfl, .inr (.inl ?_)⟩
    rw [hlast]
    exact Nat.le_sub_one_of_lt hsize
  words hsize _ _ _ _ := words_of_source hsize
  converted := boundAlike_or_refusedAlike sql
  adjacent first second kind left right hnext hleft hright := by
    rw [ExpressionSegment.source_eq_ok_iff] at hleft hright ⊢
    rw [hnext] at hright
    exact hleft.append hright

/-- In `SET name = 'é'` the letter takes the bytes 12 and 13.  A value can stop in front of
it or behind it, but not inside it. -/
theorem spans_exact_sample :
    let sql := "SET name = 'é'"
    (ExpressionSegment.mk .text 11 11).source sql = .ok "'" ∧
      (ExpressionSegment.mk .text 12 14).source sql = .ok "é'" ∧
      (ExpressionSegment.mk .text 11 14).source sql = .ok "'é'" ∧
      (ExpressionSegment.mk .complex 11 12).source sql = .error (.expressionSpan 11 12) ∧
      sql.utf8ByteSize < UInt64.size ∧
      (ExpressionSegment.mk .text 11 (UInt64.size - 1)).source sql =
        .error (.expressionSpan 11 (UInt64.size - 1)) ∧
      ((11 : UInt64) + 1).toNat = 12 := by
  intro sql
  have hexact := spans_exact sql
  have hsize : sql.utf8ByteSize < UInt64.size := by decide
  have hquote : (ExpressionSegment.mk .text 11 11).source sql = .ok "'" :=
    (hexact.source _ _).2 ⟨by decide, "SET name = ", "é'", by decide, by decide, by decide⟩
  have hletter : (ExpressionSegment.mk .text 12 14).source sql = .ok "é'" :=
    (hexact.source _ _).2 ⟨by decide, "SET name = '", "", by decide, by decide, by decide⟩
  have hinside : Text.InsideCharacter (12 + 1) sql.toList :=
    ⟨"SET name = '".toList, 'é', ['\''], by decide, by decide, by decide⟩
  refine ⟨hquote, hletter, ?_, ?_, hsize, ?_, ?_⟩
  · exact hexact.adjacent _ _ .text _ _ rfl hquote hletter
  · exact (hexact.refused _ _).2 ⟨rfl, .inr (.inr (.inr hinside))⟩
  · exact hexact.last_word hsize _ rfl
  · exact (hexact.words hsize .text 11 11 "'" hquote).1

end InsertRouting

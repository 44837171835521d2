import InsertRouting.Toml.Document
import InsertRouting.Toml.Writer

namespace InsertRouting
namespace Toml

/-!
# Reading a written document

A written document is a sequence of lines: headers of collected lists, and keys with texts
or lists of texts.  Each of them is read as one line, and what it does to the tree depends
neither on the text in front of it nor on the text behind it.  So reading a written document
is extending the empty tree line by line (`document_flatMap_chars`), and nothing below this
has to look at characters again.
-/

/-- A name that needs no quotes. -/
structure BareName where
  text : String
  ne_empty : text.toList ≠ []
  bare : text.toList.all isBare = true

namespace BareName

/-- The name as a key on a line. -/
def key (line : Nat) (name : BareName) : Key :=
  ⟨name.text, line⟩

end BareName

/-- The names of a key, with dots between them. -/
def dottedNames (last : BareName) : List BareName → List Char
  | [] => last.text.toList
  | first :: front => first.text.toList ++ '.' :: dottedNames last front

section Names

theorem not_isBare_of_isBlank {c : Char} (hblank : isBlank c = true) : isBare c = false := by
  unfold isBlank at hblank
  rcases Bool.or_eq_true_iff.1 hblank with hspace | htab
  · rw [beq_iff_eq.1 hspace]; rfl
  · rw [beq_iff_eq.1 htab]; rfl

/-- A bare name starts with a character that is no blank and no quote. -/
theorem BareName.exists_cons (name : BareName) :
    ∃ c rest, name.text.toList = c :: rest ∧ isBlank c = false ∧ isBare c = true := by
  obtain ⟨c, rest, hname⟩ := List.exists_cons_of_ne_nil name.ne_empty
  have hbare : isBare c = true := by
    have hall := name.bare
    rw [hname, List.all_cons, Bool.and_eq_true] at hall
    exact hall.1
  refine ⟨c, rest, hname, ?_, hbare⟩
  rw [Bool.eq_false_iff]
  intro hblank
  rw [not_isBare_of_isBlank hblank] at hbare
  cases hbare

/-- A bare name is read up to the first character that cannot belong to it. -/
theorem name_bareName (name : BareName) (line : Nat) (behind : List Char)
    (hstop : ∀ d ∈ behind.head?, isBare d = false) :
    Toml.name ⟨line, name.text.toList ++ behind⟩ = .ok (name.key line, ⟨line, behind⟩) := by
  have hall : ∀ d ∈ name.text.toList, isBare d = true := List.all_eq_true.1 name.bare
  have hsplit : behind.takeWhile isBare = [] ∧ behind.dropWhile isBare = behind := by
    cases behind with
    | nil => exact ⟨rfl, rfl⟩
    | cons d rest =>
        have hd : isBare d = false := hstop d rfl
        exact ⟨List.takeWhile_cons_of_neg (by simp [hd]),
          List.dropWhile_cons_of_neg (by simp [hd])⟩
  have htake : (name.text.toList ++ behind).takeWhile isBare = name.text.toList := by
    rw [List.takeWhile_append_of_pos hall, hsplit.1, List.append_nil]
  have hdrop : (name.text.toList ++ behind).dropWhile isBare = behind := by
    rw [List.dropWhile_append_of_pos hall, hsplit.2]
  have hne : name.text.toList.isEmpty = false := by simpa using name.ne_empty
  obtain ⟨first, others, hname, -, hbare⟩ := name.exists_cons
  unfold Toml.name
  dsimp only
  -- The name is not quoted, because a quote is no character of a bare name.
  split
  · rename_i quoted hquote
    rw [hname, List.cons_append] at hquote
    cases hquote
    cases hbare
  · rename_i quoted hquote
    rw [hname, List.cons_append] at hquote
    cases hquote
    cases hbare
  · rw [htake, hdrop, hne, if_neg Bool.false_ne_true, String.ofList_toList]
    rfl

theorem skipBlanks_bareName (name : BareName) (line : Nat) (behind : List Char) :
    (⟨line, name.text.toList ++ behind⟩ : Cursor).skipBlanks =
      ⟨line, name.text.toList ++ behind⟩ := by
  obtain ⟨first, others, hname, hvisible, -⟩ := name.exists_cons
  rw [hname, List.cons_append]
  exact Cursor.skipBlanks_of_not_isBlank hvisible

/-- What stands behind a written key: blanks, and a character that ends the key. -/
structure EndsKey (behind : List Char) (c : Char) (rest : List Char) : Prop where
  drop_blanks : behind.dropWhile isBlank = c :: rest
  not_bare : isBare c = false
  ne_dot : c ≠ '.'

theorem EndsKey.not_isBare {behind rest : List Char} {c : Char}
    (hends : EndsKey behind c rest) : ∀ d ∈ behind.head?, isBare d = false := by
  intro d hd
  obtain ⟨tail, rfl⟩ : ∃ tail, behind = d :: tail := by
    cases behind with
    | nil => cases hd
    | cons first tail => exact ⟨tail, by rw [Option.mem_some.1 hd]⟩
  by_cases hblank : isBlank d = true
  · exact not_isBare_of_isBlank hblank
  · have hdrop := hends.drop_blanks
    rw [List.dropWhile_cons_of_neg hblank] at hdrop
    cases hdrop
    exact hends.not_bare

section Steps

variable {cursor next final : Cursor} {key : Key} {others : List Key} {line : Nat}
  {rest : List Char} (fuel : Nat)

theorem names_of_last {c : Char} (hname : Toml.name cursor.skipBlanks = .ok (key, next))
    (hrest : next.skipBlanks = ⟨line, c :: rest⟩) (hdot : c ≠ '.') :
    names (fuel + 1) cursor = .ok ([key], ⟨line, c :: rest⟩) := by
  simp only [names, hname, bind, Except.bind, hrest]
  split
  · rename_i hc
    cases hc
    exact absurd rfl hdot
  · rfl

theorem names_of_dot (hname : Toml.name cursor.skipBlanks = .ok (key, next))
    (hrest : next.skipBlanks = ⟨line, '.' :: rest⟩)
    (hstarts : startsKey (rest.dropWhile isBlank) = true)
    (hothers : names fuel ⟨line, rest⟩ = .ok (others, final)) :
    names (fuel + 1) cursor = .ok (key :: others, final) := by
  simp only [names, hname, bind, Except.bind, hrest, hstarts, hothers, if_true]
  rfl

end Steps

theorem startsKey_dottedNames (last : BareName) (front : List BareName) (behind : List Char) :
    startsKey ((dottedNames last front ++ behind).dropWhile isBlank) = true := by
  obtain ⟨name, others, htext⟩ : ∃ (name : BareName) (others : List Char),
      dottedNames last front ++ behind = name.text.toList ++ others := by
    cases front with
    | nil => exact ⟨last, behind, rfl⟩
    | cons first front => exact ⟨first, _, List.append_assoc _ _ _⟩
  obtain ⟨c, tail, hname, hvisible, hbare⟩ := name.exists_cons
  rw [htext, hname, List.cons_append, List.dropWhile_cons_of_neg (by simp [hvisible])]
  simp [startsKey, hbare]

/-- The names of a written key are read one after the other. -/
theorem names_dottedNames (last : BareName) (front : List BareName) (line : Nat)
    {behind rest : List Char} {c : Char} (hends : EndsKey behind c rest) {fuel : Nat}
    (hfuel : front.length < fuel) :
    names fuel ⟨line, dottedNames last front ++ behind⟩ =
      .ok (front.map (BareName.key line) ++ [last.key line], ⟨line, c :: rest⟩) := by
  induction front generalizing fuel with
  | nil =>
      obtain ⟨fuel, rfl⟩ := Nat.exists_eq_add_one_of_ne_zero (Nat.ne_zero_of_lt hfuel)
      have hname := name_bareName last line behind hends.not_isBare
      rw [← skipBlanks_bareName] at hname
      have hrest : (⟨line, behind⟩ : Cursor).skipBlanks = ⟨line, c :: rest⟩ :=
        congrArg (Cursor.mk line) hends.drop_blanks
      exact names_of_last fuel hname hrest hends.ne_dot
  | cons first front ih =>
      obtain ⟨fuel, rfl⟩ := Nat.exists_eq_add_one_of_ne_zero (Nat.ne_zero_of_lt hfuel)
      have hname := name_bareName first line ('.' :: (dottedNames last front ++ behind))
        (by simp [isBare])
      rw [← skipBlanks_bareName] at hname
      rw [dottedNames, List.append_assoc, List.cons_append]
      exact names_of_dot fuel hname (Cursor.skipBlanks_of_not_isBlank rfl)
        (startsKey_dottedNames last front behind) (ih (Nat.lt_of_succ_lt_succ hfuel))

theorem length_lt_length_dottedNames (last : BareName) (front : List BareName) :
    front.length < (dottedNames last front).length := by
  induction front with
  | nil => exact List.length_pos_iff.2 last.ne_empty
  | cons first front ih =>
      rw [dottedNames, List.length_append, List.length_cons, List.length_cons]
      omega

/-- A written key is read as it was written. -/
theorem path_dottedNames (last : BareName) (front : List BareName) (line : Nat)
    (hshort : front.length + 1 < pathLimit) {behind rest : List Char} {c : Char}
    (hends : EndsKey behind c rest) :
    path ⟨line, dottedNames last front ++ behind⟩ =
      .ok ((front.map (BareName.key line), last.key line), ⟨line, c :: rest⟩) := by
  have hfuel : front.length < (dottedNames last front ++ behind).length := by
    have hlength := length_lt_length_dottedNames last front
    rw [List.length_append]
    omega
  have hread := names_dottedNames last front line hends hfuel
  simp only [path, bind, Except.bind, hread]
  simp [hshort, pure, Except.pure]

end Names

section Values

variable (line : Nat)

theorem string?_of_single_quote {rest : List Char}
    (hsingle : ∀ tail, rest ≠ '"' :: '"' :: tail) :
    string? ⟨line, '"' :: rest⟩ = some (basicString line rest) := by
  unfold string?
  split
  · rename_i tail htail
    cases htail
    exact absurd rfl (hsingle tail)
  · rename_i tail _ htail
    cases htail
    rfl
  · rename_i htail
    cases htail
  · rename_i htail
    cases htail
  · rename_i _ hother _ _
    exact absurd rfl (hother rest)

/-- A written character never starts with a quote. -/
theorem exists_cons_writeBasicChar (c : Char) :
    ∃ first rest, writeBasicChar c = first :: rest ∧ first ≠ '"' := by
  unfold writeBasicChar
  by_cases hquote : c = '"'
  · exact ⟨'\\', ['"'], by rw [if_pos hquote], by decide⟩
  · rw [if_neg hquote]
    split
    · exact ⟨'\\', ['\\'], rfl, by decide⟩
    · split
      · exact ⟨'\\', _, rfl, by decide⟩
      · exact ⟨c, [], rfl, hquote⟩

/-- A written text is read back up to its closing quote. -/
theorem string?_writeBasic (text : String) {c : Char} (rest : List Char) (hc : c ≠ '"') :
    string? ⟨line, writeBasic text ++ c :: rest⟩ = some (.ok (text.toList, ⟨line, c :: rest⟩)) := by
  have hbehind : writeBasic text ++ c :: rest =
      '"' :: (text.toList.flatMap writeBasicChar ++ '"' :: c :: rest) := by
    simp [writeBasic]
  rw [hbehind, string?_of_single_quote, basicString_writeBasic]
  intro tail htail
  cases htext : text.toList with
  | nil =>
      -- The quotes of an empty text are not the first two of three.
      rw [htext] at htail
      cases htail
      exact hc rfl
  | cons d others =>
      obtain ⟨first, more, hwritten, hfirst⟩ := exists_cons_writeBasicChar d
      rw [htext, List.flatMap_cons, hwritten, List.cons_append, List.cons_append] at htail
      exact hfirst (List.cons.inj htail).1

/-- The value of a written text. -/
def textNode (text : String) : Node :=
  .scalar line (.string text)

theorem plainValue_writeBasic (text : String) {c : Char} (rest : List Char) (hc : c ≠ '"') :
    plainValue ⟨line, writeBasic text ++ c :: rest⟩ =
      .ok (textNode line text, ⟨line, c :: rest⟩) := by
  unfold plainValue
  rw [string?_writeBasic line text rest hc]
  show Except.ok (textNode line (String.ofList text.toList), (⟨line, c :: rest⟩ : Cursor)) = _
  rw [String.ofList_toList]

theorem value_writeBasic (depth : Nat) (text : String) {c : Char} (rest : List Char)
    (hc : c ≠ '"') :
    value depth ⟨line, writeBasic text ++ c :: rest⟩ =
      .ok (textNode line text, ⟨line, c :: rest⟩) := by
  cases depth with
  | zero => exact plainValue_writeBasic line text rest hc
  | succ depth => exact plainValue_writeBasic line text rest hc

variable (read : Reader Node)

theorem items_blank (fuel : Nat) (rest : List Char) :
    items read fuel ⟨line, ' ' :: rest⟩ = items read fuel ⟨line, rest⟩ := by
  cases fuel with
  | zero => rfl
  | succ fuel => rfl

variable {text rest : List Char} {node : Node}

theorem items_of_last (fuel : Nat)
    (hread : read ⟨line, '"' :: text⟩ = .ok (node, ⟨line, ']' :: rest⟩)) :
    items read (fuel + 1) ⟨line, '"' :: text⟩ = .ok ([node], ⟨line, rest⟩) := by
  have hfirst : (⟨line, '"' :: text⟩ : Cursor).skipFiller = .ok ⟨line, '"' :: text⟩ := rfl
  simp only [items, hfirst, bind, Except.bind, hread]
  rfl

theorem items_of_comma (fuel : Nat) {others : List Node} {final : Cursor}
    (hread : read ⟨line, '"' :: text⟩ = .ok (node, ⟨line, ',' :: rest⟩))
    (hothers : items read fuel ⟨line, rest⟩ = .ok (others, final)) :
    items read (fuel + 1) ⟨line, '"' :: text⟩ = .ok (node :: others, final) := by
  have hfirst : (⟨line, '"' :: text⟩ : Cursor).skipFiller = .ok ⟨line, '"' :: text⟩ := rfl
  have hcomma : (⟨line, ',' :: rest⟩ : Cursor).skipFiller = .ok ⟨line, ',' :: rest⟩ := rfl
  simp only [items, hfirst, bind, Except.bind, hread, hcomma, hothers]
  rfl

/-- The written texts of a list are read up to the closing bracket. -/
theorem items_writeMoreTexts (depth : Nat) (text : String) (texts : List String)
    (rest : List Char) {fuel : Nat} (hfuel : texts.length < fuel) :
    items (value depth) fuel ⟨line, writeBasic text ++ (writeMoreTexts texts ++ rest)⟩ =
      .ok ((text :: texts).map (textNode line), ⟨line, rest⟩) := by
  induction texts generalizing text fuel with
  | nil =>
      obtain ⟨fuel, rfl⟩ := Nat.exists_eq_add_one_of_ne_zero (Nat.ne_zero_of_lt hfuel)
      exact items_of_last line _ fuel
        (value_writeBasic line depth text rest (by decide))
  | cons next texts ih =>
      obtain ⟨fuel, rfl⟩ := Nat.exists_eq_add_one_of_ne_zero (Nat.ne_zero_of_lt hfuel)
      rw [writeMoreTexts, List.append_assoc, List.append_assoc]
      refine items_of_comma line _ fuel
        (value_writeBasic line depth text _ (by decide)) ?_
      show items (value depth) fuel ⟨line, ' ' :: (writeBasic next ++ _)⟩ = _
      rw [items_blank]
      exact ih next (Nat.lt_of_succ_lt_succ hfuel)

theorem length_le_length_writeMoreTexts (texts : List String) :
    texts.length ≤ (writeMoreTexts texts).length := by
  induction texts with
  | nil => exact Nat.zero_le _
  | cons text texts ih =>
      rw [writeMoreTexts, List.length_append, List.length_append, List.length_cons]
      simp only [List.length_cons, List.length_nil]
      omega

theorem value_writeTexts (depth : Nat) (texts : List String) (rest : List Char) :
    value (depth + 1) ⟨line, writeTexts texts ++ rest⟩ =
      .ok (.list line .inline (texts.map (textNode line)), ⟨line, rest⟩) := by
  cases texts with
  | nil => rfl
  | cons text texts =>
      have hfuel : texts.length < (writeBasic text ++ (writeMoreTexts texts ++ rest)).length := by
        have hlength := length_le_length_writeMoreTexts texts
        have hquoted : 0 < (writeBasic text).length := by simp [writeBasic]
        rw [List.length_append, List.length_append]
        omega
      have hitems := items_writeMoreTexts line depth text texts rest hfuel
      rw [writeTexts, List.cons_append, List.append_assoc]
      simp only [value, hitems, bind, Except.bind]
      rfl

end Values

/-- A value of a written document. -/
inductive WrittenValue
  | text (given : String)
  | texts (given : List String)

namespace WrittenValue

/-- The value as it is written. -/
def chars : WrittenValue → List Char
  | .text given => writeBasic given
  | .texts given => writeTexts given

/-- The value as it is read on a line. -/
def node (line : Nat) : WrittenValue → Node
  | .text given => textNode line given
  | .texts given => .list line .inline (given.map (textNode line))

end WrittenValue

/-- A line of a written document. -/
inductive WrittenLine
  /-- The header of the next table of a collected list. -/
  | itemHeader (front : List BareName) (last : BareName)
      (short : front.length + 1 < pathLimit := by decide)
  | pair (key : BareName) (value : WrittenValue)

/-- The line as it is written. -/
def WrittenLine.chars : WrittenLine → List Char
  | itemHeader front last _ => ['[', '['] ++ dottedNames last front ++ [']', ']', '\n']
  | pair key value => writePair key.text value.chars

/-- The draft after one more written line. -/
def Draft.extend (draft : Draft) (line : Nat) : WrittenLine → Option Draft
  | .itemHeader front last _ =>
      draft.openItemHeader line (front.map (BareName.key line)) (last.key line)
  | .pair key value => draft.assign [] (key.key line) (value.node line)

/-- The draft after written lines, the first of which has the given number. -/
def Draft.extendAll (draft : Draft) (line : Nat) : List WrittenLine → Option Draft
  | [] => some draft
  | written :: rest => do
      let next ← draft.extend line written
      next.extendAll (line + 1) rest

section Lines

theorem WrittenValue.exists_cons (written : WrittenValue) :
    ∃ c rest, written.chars = c :: rest ∧ isBlank c = false := by
  cases written with
  | text given => exact ⟨'"', _, rfl, rfl⟩
  | texts given =>
      cases given with
      | nil => exact ⟨'[', _, rfl, rfl⟩
      | cons text texts => exact ⟨'[', _, rfl, rfl⟩

theorem value_chars (line : Nat) (written : WrittenValue) (rest : List Char) :
    value nestingLimit ⟨line, written.chars ++ '\n' :: rest⟩ =
      .ok (written.node line, ⟨line, '\n' :: rest⟩) := by
  cases written with
  | text given => exact value_writeBasic line nestingLimit given rest (by decide)
  | texts given => exact value_writeTexts line (nestingLimit - 1) given ('\n' :: rest)

/-- The end of a written line is the start of the next one. -/
theorem finishLine_feed (line : Nat) (rest : List Char) :
    (⟨line, '\n' :: rest⟩ : Cursor).finishLine = .ok ⟨line + 1, rest⟩ :=
  rfl

theorem pair_chars (line : Nat) (key : BareName) (written : WrittenValue) (rest : List Char) :
    pair (value nestingLimit) ⟨line, writePair key.text written.chars ++ rest⟩ =
      .ok ((([], key.key line), written.node line), ⟨line, '\n' :: rest⟩) := by
  have hends : EndsKey (' ' :: '=' :: ' ' :: (written.chars ++ '\n' :: rest)) '='
      (' ' :: (written.chars ++ '\n' :: rest)) := ⟨rfl, rfl, by decide⟩
  have htext : writePair key.text written.chars ++ rest =
      dottedNames key [] ++ ' ' :: '=' :: ' ' :: (written.chars ++ '\n' :: rest) := by
    simp [writePair, dottedNames]
  have hskip : (⟨line, ' ' :: (written.chars ++ '\n' :: rest)⟩ : Cursor).skipBlanks =
      ⟨line, written.chars ++ '\n' :: rest⟩ := by
    obtain ⟨c, more, hchars, hvisible⟩ := written.exists_cons
    rw [hchars]
    exact Cursor.skipBlanks_of_not_isBlank hvisible
  simp only [pair, htext, path_dottedNames key [] line (by decide) hends, bind, Except.bind,
    Cursor.expect_self, hskip, value_chars]
  rfl

variable {draft next : Draft} {number : Nat}

theorem line_itemHeader {front : List BareName} {last : BareName}
    (hshort : front.length + 1 < pathLimit) (rest : List Char)
    (hopen : draft.openItemHeader number (front.map (BareName.key number)) (last.key number) =
      some next) :
    line draft ⟨number, (WrittenLine.itemHeader front last hshort).chars ++ rest⟩ =
      .ok (next, ⟨number + 1, rest⟩) := by
  have hends : EndsKey (']' :: ']' :: '\n' :: rest) ']' (']' :: '\n' :: rest) :=
    ⟨rfl, rfl, by decide⟩
  have htext : (WrittenLine.itemHeader front last hshort).chars ++ rest =
      '[' :: '[' :: (dottedNames last front ++ ']' :: ']' :: '\n' :: rest) := by
    simp [WrittenLine.chars]
  rw [htext]
  show itemHeaderLine draft number
    ⟨number, dottedNames last front ++ ']' :: ']' :: '\n' :: rest⟩ = _
  simp only [itemHeaderLine, path_dottedNames last front number hshort hends, bind, Except.bind,
    Cursor.expect_self, finishLine_feed, hopen]
  rfl

theorem line_pair (key : BareName) (written : WrittenValue) (rest : List Char)
    (hassign : draft.assign [] (key.key number) (written.node number) = some next) :
    line draft ⟨number, (WrittenLine.pair key written).chars ++ rest⟩ =
      .ok (next, ⟨number + 1, rest⟩) := by
  have hpair := pair_chars number key written rest
  have hline : pairLine draft ⟨number, writePair key.text written.chars ++ rest⟩ =
      .ok (next, ⟨number + 1, rest⟩) := by
    simp only [pairLine, hpair, bind, Except.bind, finishLine_feed, hassign]
    rfl
  obtain ⟨c, more, hname, -, hbare⟩ := key.exists_cons
  obtain ⟨tail, htext⟩ : ∃ tail, writePair key.text written.chars ++ rest = c :: tail := by
    rw [writePair, hname]
    exact ⟨_, rfl⟩
  rw [WrittenLine.chars, ← hline, htext]
  -- A bare name is neither a header nor a comment nor the end of a line.
  have hother : c ≠ '[' ∧ c ≠ '#' ∧ c ≠ '\n' ∧ c ≠ '\r' := by
    refine ⟨?_, ?_, ?_, ?_⟩ <;> rintro rfl <;> cases hbare
  simp [line, hother]

theorem line_chars (written : WrittenLine) (rest : List Char)
    (hextend : draft.extend number written = some next) :
    line draft ⟨number, written.chars ++ rest⟩ = .ok (next, ⟨number + 1, rest⟩) := by
  cases written with
  | itemHeader front last short => exact line_itemHeader short rest hextend
  | pair key value => exact line_pair key value rest hextend

/-- A written line starts with a character that a document can start with. -/
theorem WrittenLine.exists_cons (written : WrittenLine) :
    ∃ c rest, written.chars = c :: rest ∧ isBlank c = false ∧ c ≠ '\ufeff' := by
  cases written with
  | itemHeader front last short => exact ⟨'[', _, rfl, rfl, by decide⟩
  | pair key value =>
      obtain ⟨c, more, hname, hvisible, hbare⟩ := key.exists_cons
      refine ⟨c, _, by rw [chars, writePair, hname]; rfl, hvisible, ?_⟩
      rintro rfl
      cases hbare

/-- Written lines are read one after the other. -/
theorem lines_flatMap_chars (written : List WrittenLine)
    (hextend : draft.extendAll number written = some next) {fuel : Nat}
    (hfuel : (written.flatMap WrittenLine.chars).length < fuel) :
    lines fuel draft ⟨number, written.flatMap WrittenLine.chars⟩ = .ok next := by
  obtain ⟨fuel, rfl⟩ := Nat.exists_eq_add_one_of_ne_zero (Nat.ne_zero_of_lt hfuel)
  induction written generalizing draft number fuel with
  | nil =>
      cases hextend
      rfl
  | cons first rest ih =>
      obtain ⟨following, hfirst, hrest⟩ := Option.bind_eq_some_iff.1 hextend
      obtain ⟨c, more, hchars, hvisible, -⟩ := first.exists_cons
      rw [List.flatMap_cons] at hfuel ⊢
      have hline := line_chars first (rest.flatMap WrittenLine.chars) hfirst
      -- Every line has a character, so the rest needs less fuel.
      have hless : (rest.flatMap WrittenLine.chars).length < fuel := by
        rw [hchars, List.length_append, List.length_cons] at hfuel
        omega
      have hskip : (⟨number, first.chars ++ rest.flatMap WrittenLine.chars⟩ :
          Cursor).skipBlanks = ⟨number, first.chars ++ rest.flatMap WrittenLine.chars⟩ := by
        rw [hchars, List.cons_append]
        exact Cursor.skipBlanks_of_not_isBlank hvisible
      have hmore : (first.chars ++ rest.flatMap WrittenLine.chars).isEmpty = false := by
        rw [hchars, List.cons_append, List.isEmpty_cons]
      obtain ⟨fuel, rfl⟩ := Nat.exists_eq_add_one_of_ne_zero (Nat.ne_zero_of_lt hless)
      rw [lines, hskip, hmore, if_neg Bool.false_ne_true, hline]
      exact ih hrest fuel hless

/-- Reading a written document is extending the empty tree line by line. -/
theorem document_flatMap_chars (written : List WrittenLine)
    (hextend : ({} : Draft).extendAll 1 written = some next) :
    document (written.flatMap WrittenLine.chars) = .ok next.root := by
  have hstart : Cursor.ofDocument (written.flatMap WrittenLine.chars) =
      ⟨1, written.flatMap WrittenLine.chars⟩ := by
    cases written with
    | nil => rfl
    | cons first rest =>
        obtain ⟨c, more, hchars, -, hmark⟩ := first.exists_cons
        rw [List.flatMap_cons, hchars, List.cons_append]
        unfold Cursor.ofDocument
        split
        · rename_i hc
          cases hc
          exact absurd rfl hmark
        · rfl
  unfold document
  rw [hstart, lines_flatMap_chars written hextend (Nat.lt_succ_self _)]
  rfl

end Lines

end Toml
end InsertRouting

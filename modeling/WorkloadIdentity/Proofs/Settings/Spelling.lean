import WorkloadIdentity.Proofs.Fallible
import WorkloadIdentity.Proofs.Text.Blank
import WorkloadIdentity.Proofs.Text.Decimal
import WorkloadIdentity.Proofs.Text.Parts
import WorkloadIdentity.Settings.Environment

/-!
What a variable spells. Most texts spell themselves without the blanks around them; the others are
`true` and `false`, numbers, texts and characters in quotes, lists and records.
-/

namespace WorkloadIdentity.Environment

variable {fuel : Nat} {cs text rest written : List Char}

/-! ### Texts in quotes -/

/-- What stands behind an opening quote up to the closing one, with the text that it stands for. -/
inductive Quoted : (written text : List Char) → Prop
  | closed : Quoted ['"'] []
  | plain {c : Char} {written text : List Char} : c ≠ '"' → c ≠ '\\' →
      c = '\t' ∨ 0x20 ≤ c.toNat ∧ c.toNat ≠ 0x7F → Quoted written text →
      Quoted (c :: written) (c :: text)
  | escaped {letter c : Char} {written text : List Char} : escaped? letter = some c →
      Quoted written text → Quoted ('\\' :: letter :: written) (c :: text)
  | short {digits : List Char} {c : Char} {written text : List Char} : digits.length = 4 →
      codePoint? digits 4 = some c → Quoted written text →
      Quoted ('\\' :: 'u' :: (digits ++ written)) (c :: text)
  | long {digits : List Char} {c : Char} {written text : List Char} : digits.length = 8 →
      codePoint? digits 8 = some c → Quoted written text →
      Quoted ('\\' :: 'U' :: (digits ++ written)) (c :: text)

theorem length_of_codePoint? {digits : List Char} {count : Nat} {c : Char}
    (h : codePoint? digits count = some c) : digits.length = count := by
  obtain ⟨values, hvalues, h⟩ := Option.bind_eq_some_iff.mp h
  dsimp only at h
  split at h
  · next hcount =>
      simp only [Bool.and_eq_true, decide_eq_true_eq] at hcount
      rw [← hcount.1]
      exact length_of_mapM hvalues
  · cases h

/-- The reader of a text ends it where the grammar does. -/
theorem quotedText_of_quoted (h : Quoted written text) (hfuel : written.length ≤ fuel) :
    quotedText fuel (written ++ rest) = some (text, rest) := by
  induction h generalizing fuel with
  | closed =>
      obtain ⟨fuel, rfl⟩ := Nat.exists_eq_add_of_le' hfuel
      simp [quotedText]
  | @plain c written text hquote hmark hplain hrest ih =>
      obtain ⟨fuel, rfl⟩ := Nat.exists_eq_add_of_le' (Nat.le_trans (Nat.le_add_left 1 _) hfuel)
      have hlater := @ih fuel (by simpa using hfuel)
      simp [quotedText, hmark, hplain, hlater]
  | @escaped letter c written text hescape hrest ih =>
      obtain ⟨fuel, rfl⟩ := Nat.exists_eq_add_of_le' (Nat.le_trans (Nat.le_add_left 1 _) hfuel)
      have hlater := @ih fuel (by simp at hfuel; omega)
      have hu : letter ≠ 'u' := by
        rintro rfl
        cases hescape
      have hU : letter ≠ 'U' := by
        rintro rfl
        cases hescape
      simp [quotedText, hescape, hlater]
  | @short digits c written text hlength hpoint hrest ih =>
      obtain ⟨fuel, rfl⟩ := Nat.exists_eq_add_of_le' (Nat.le_trans (Nat.le_add_left 1 _) hfuel)
      have hlater := @ih fuel (by simp at hfuel; omega)
      simp [quotedText, hlength, hpoint, hlater]
  | @long digits c written text hlength hpoint hrest ih =>
      obtain ⟨fuel, rfl⟩ := Nat.exists_eq_add_of_le' (Nat.le_trans (Nat.le_add_left 1 _) hfuel)
      have hlater := @ih fuel (by simp at hfuel; omega)
      simp [quotedText, hlength, hpoint, hlater]

theorem quoted_of_quotedText (h : quotedText fuel cs = some (text, rest)) :
    ∃ written, cs = written ++ rest ∧ Quoted written text := by
  induction fuel generalizing cs text with
  | zero => cases h
  | succ fuel ih =>
      -- Whatever the next character is spelled by, the others are read behind it.
      have hadd {c : Char} {behind : List Char} (h : (quotedText fuel behind).map
          (fun found => (c :: found.1, found.2)) = some (text, rest)) :
          ∃ later written, text = c :: later ∧ behind = written ++ rest ∧ Quoted written later := by
        obtain ⟨⟨later, _⟩, hlater, heq⟩ := Option.map_eq_some_iff.mp h
        cases heq
        obtain ⟨written, hwritten, hquoted⟩ := ih hlater
        exact ⟨later, written, rfl, hwritten, hquoted⟩
      unfold quotedText at h
      dsimp only at h
      split at h
      · cases h
      · cases h
        exact ⟨['"'], rfl, .closed⟩
      · obtain ⟨c, hpoint, h⟩ := Option.bind_eq_some_iff.mp h
        obtain ⟨later, written, rfl, hwritten, hquoted⟩ := hadd h
        refine ⟨_, ?_, .short (length_of_codePoint? hpoint) hpoint hquoted⟩
        rw [List.cons_append, List.cons_append, List.append_assoc, ← hwritten,
          List.take_append_drop]
      · obtain ⟨c, hpoint, h⟩ := Option.bind_eq_some_iff.mp h
        obtain ⟨later, written, rfl, hwritten, hquoted⟩ := hadd h
        refine ⟨_, ?_, .long (length_of_codePoint? hpoint) hpoint hquoted⟩
        rw [List.cons_append, List.cons_append, List.append_assoc, ← hwritten,
          List.take_append_drop]
      · next letter cs _ _ =>
          obtain ⟨c, hescape, h⟩ := Option.bind_eq_some_iff.mp h
          obtain ⟨later, written, rfl, rfl, hquoted⟩ := hadd h
          exact ⟨'\\' :: letter :: written, rfl, .escaped hescape hquoted⟩
      · next c cs hquote _ _ hescape =>
          split at h
          · next hplain =>
              obtain ⟨later, written, rfl, rfl, hquoted⟩ := hadd h
              have hmark : c ≠ '\\' := by
                cases hquoted
                all_goals exact fun hmark => hescape _ _ hmark rfl
              exact ⟨c :: written, rfl, .plain hquote hmark (by simpa using hplain) hquoted⟩
          · cases h

theorem quotedText_eq_some_iff (hfuel : cs.length ≤ fuel) :
    quotedText fuel cs = some (text, rest) ↔
      ∃ written, cs = written ++ rest ∧ Quoted written text := by
  constructor
  · exact quoted_of_quotedText
  · rintro ⟨written, rfl, hquoted⟩
    apply quotedText_of_quoted hquoted
    rw [List.length_append] at hfuel
    omega

/-! ### What is no plain text -/

/-- A text between double quotes, or a character between single ones, with the text inside. -/
inductive InQuotes : (cs text : List Char) → Prop
  | double {written text : List Char} : Quoted written text → InQuotes ('"' :: written) text
  | single (c : Char) : InQuotes ['\'', c, '\''] [c]

def IsFlag (cs : List Char) : Prop := cs = "true".toList ∨ cs = "false".toList

/-- A whole number of 64 bits, with or without a sign, or a decimal number with a point. -/
def IsNumber (cs : List Char) : Prop :=
  (∃ n, Text.readNat (word64 - 1) cs = .ok n) ∨ (∃ i, Text.readInt (signedWord64 - 1) cs = .ok i) ∨
    '.' ∈ cs ∧ ∃ d, Decimal.parse? cs = some d

/-- The whole text is read as a list or a record. -/
def IsCollection (cs : List Char) : Prop :=
  ∃ found, value (2 * cs.length + 2) cs = some (found, []) ∧
    ((∃ items, found = .list items) ∨ ∃ fields, found = .record fields)

/-! ### The characters of numbers -/

/-- Characters that numbers are written with. -/
def isNumberChar (c : Char) : Bool := Decimal.isDigit c || ['+', '-', '.', 'e', 'E'].contains c

theorem isNumberChar_of_isDigit {c : Char} (h : c.isDigit = true) : isNumberChar c = true := by
  have hdigit : Text.digit? c = some (c.toNat - '0'.toNat) := Text.digit?_eq_some_iff.mpr ⟨h, rfl⟩
  rw [isNumberChar, Decimal.isDigit, hdigit]
  rfl

theorem all_of_cutSign (h : (Decimal.cutSign cs).2.all isNumberChar = true) :
    cs.all isNumberChar = true := by
  unfold Decimal.cutSign at h
  split at h
  · exact h
  · exact h
  · exact h

theorem all_of_dropWhile (h : (cs.dropWhile Decimal.isDigit).all isNumberChar = true) :
    cs.all isNumberChar = true := by
  rw [← List.takeWhile_append_dropWhile (p := Decimal.isDigit) (l := cs), List.all_append, h,
    Bool.and_true, List.all_eq_true]
  intro c hc
  rw [isNumberChar, List.mem_takeWhile_imp hc, Bool.true_or]

theorem all_of_cutFraction (h : (Decimal.cutFraction cs).2.all isNumberChar = true) :
    cs.all isNumberChar = true := by
  unfold Decimal.cutFraction at h
  split at h
  · next rest =>
      have hrest : rest.all isNumberChar = true := all_of_dropWhile h
      exact hrest
  · exact h

theorem all_of_parse? {d : Decimal} (h : Decimal.parse? cs = some d) :
    cs.all isNumberChar = true := by
  simp only [Decimal.parse?] at h
  apply all_of_cutSign
  apply all_of_dropWhile
  apply all_of_cutFraction
  split at h
  · cases h
  · split at h
    · next hnil =>
        rw [hnil]
        rfl
    · next e rest hrest =>
        split at h
        · next hexponent =>
            simp only [Bool.and_eq_true, Bool.or_eq_true, beq_iff_eq, List.all_eq_true] at hexponent
            obtain ⟨⟨he, -⟩, hdigits⟩ := hexponent
            have hbehind : rest.all isNumberChar = true := by
              apply all_of_cutSign
              rw [List.all_eq_true]
              intro c hc
              rw [isNumberChar, hdigits c hc, Bool.true_or]
            rw [hrest, List.all_cons, hbehind, Bool.and_true]
            rcases he with rfl | rfl
            · rfl
            · rfl
        · cases h

theorem all_of_isNumeral {n : Nat} (h : Text.IsNumeral cs n) : cs.all isNumberChar = true := by
  obtain ⟨ds, hsign, -, hdigits, -⟩ := h
  have hall : ds.all isNumberChar = true :=
    List.all_eq_true.mpr fun c hc => isNumberChar_of_isDigit (hdigits c hc)
  rcases hsign with rfl | rfl
  · exact hall
  · exact hall

theorem all_of_readInt {max : Nat} {i : Int} (h : Text.readInt max cs = .ok i) :
    cs.all isNumberChar = true := by
  unfold Text.readInt at h
  split at h
  · cases h
  · next rest _ =>
      split at h
      · next n hread =>
          have hdigits := ((Text.readDigits_ok_iff (Nat.zero_le _)).mp hread).1
          have hall : rest.all isNumberChar = true :=
            List.all_eq_true.mpr fun c hc => isNumberChar_of_isDigit (hdigits c hc)
          exact hall
      · cases h
      · cases h
  · cases hread : Text.readNat max cs with
    | error fault => simp [hread, Except.map] at h
    | ok n => exact all_of_isNumeral (Text.readNat_ok_iff.mp hread).1

theorem all_of_isNumber (h : IsNumber cs) : cs.all isNumberChar = true := by
  rcases h with ⟨n, hread⟩ | ⟨i, hread⟩ | ⟨-, d, hread⟩
  · exact all_of_isNumeral (Text.readNat_ok_iff.mp hread).1
  · exact all_of_readInt hread
  · exact all_of_parse? hread

theorem isSpace_of_isNumberChar {c : Char} (h : isNumberChar c = true) : isSpace c = false := by
  rw [← Bool.not_eq_true]
  intro hspace
  simp only [isSpace, Bool.or_eq_true, beq_iff_eq] at hspace
  rcases hspace with (((rfl | rfl) | rfl) | rfl) | rfl
  all_goals cases h

theorem isTextChar_of_isNumberChar {c : Char} (h : isNumberChar c = true) :
    isTextChar c = true := by
  rw [isTextChar, Bool.not_eq_true', ← Bool.not_eq_true]
  intro hmark
  simp only [List.contains_iff_mem, List.mem_cons, List.not_mem_nil, or_false] at hmark
  rcases hmark with rfl | rfl | rfl | rfl | rfl
  all_goals cases h

/-- Of the characters of numbers none has a meaning of its own. -/
theorem value_of_numberChars (hne : cs ≠ []) (h : cs.all isNumberChar = true) :
    value (fuel + 1) cs = some (bareValue cs, []) := by
  have hmem := List.all_eq_true.mp h
  have hnot {c : Char} (hc : isNumberChar c = false) : c ∉ cs := by
    intro hcs
    rw [hmem c hcs] at hc
    cases hc
  have hword {word : List Char} {c : Char} (hword : c ∈ word) (hc : isNumberChar c = false) :
      Text.after? word cs = none := by
    rw [Option.eq_none_iff_forall_ne_some]
    intro rest hrest
    apply hnot hc
    rw [Text.after?_eq_some_iff.mp hrest]
    exact List.mem_append_left _ hword
  have htrue : Text.after? "true".toList cs = none := hword (c := 't') (by decide) rfl
  have hfalse : Text.after? "false".toList cs = none := hword (c := 'f') (by decide) rfl
  have hspace : skipSpace cs = cs := by
    obtain ⟨c, rest, rfl⟩ := List.exists_cons_of_ne_nil hne
    rw [skipSpace, List.dropWhile_cons_of_neg]
    rw [isSpace_of_isNumberChar (hmem c List.mem_cons_self)]
    exact Bool.false_ne_true
  have hall : ∀ c ∈ cs, isTextChar c = true := fun c hc => isTextChar_of_isNumberChar (hmem c hc)
  rw [value, hspace]
  dsimp only
  rw [htrue, hfalse]
  dsimp only
  split
  · exact absurd List.mem_cons_self (hnot (c := '\x7b') rfl)
  · exact absurd List.mem_cons_self (hnot (c := '[') rfl)
  · exact absurd List.mem_cons_self (hnot (c := '"') rfl)
  · exact absurd List.mem_cons_self (hnot (c := '\'') rfl)
  · exact absurd List.mem_cons_self (hnot (c := '\'') rfl)
  · rw [List.takeWhile_eq_self_iff.mpr hall, List.dropWhile_eq_nil_iff.mpr hall]
    rfl

/-! ### Spaces -/

theorem isSpace_of_isBlank_eq_false {c : Char} (h : Text.isBlank c = false) : isSpace c = false := by
  by_contra hspace
  simp only [isSpace, Bool.not_eq_false, Bool.or_eq_true, beq_iff_eq] at hspace
  rcases hspace with (((rfl | rfl) | rfl) | rfl) | rfl
  all_goals cases h

theorem skipSpace_trim (raw : List Char) : skipSpace (Text.trim raw) = Text.trim raw := by
  cases htrim : Text.trim raw with
  | nil => rfl
  | cons c rest =>
      have hc := isSpace_of_isBlank_eq_false (Text.isBlank_of_trim_eq_cons htrim)
      rw [skipSpace, List.dropWhile_cons_of_neg (by simp [hc])]

/-- Behind anything in a trimmed text there is nothing or more than spaces. -/
theorem eq_nil_of_skipSpace {raw front : List Char} (htrim : Text.trim raw = front ++ rest)
    (h : skipSpace rest = []) : rest = [] := by
  rcases List.eq_nil_or_concat rest with rfl | ⟨inside, last, rfl⟩
  · rfl
  · rw [skipSpace, List.dropWhile_eq_nil_iff] at h
    have hspace : isSpace last = true := h last (by simp)
    rw [List.concat_eq_append, ← List.append_assoc] at htrim
    rw [isSpace_of_isBlank_eq_false (Text.isBlank_of_trim_eq_concat htrim)] at hspace
    cases hspace

/-! ### What a variable spells -/

/-- The values that a text can be taken for as a whole. -/
inductive Takes (cs : List Char) : Value → Prop
  | flag (b : Bool) : IsFlag cs → Takes cs (.bool b)
  | text {text : List Char} : InQuotes cs text → Takes cs (.text (String.ofList text))
  | char {c : Char} : InQuotes cs [c] → Takes cs (.char c)
  | list (items : List Value) : Takes cs (.list items)
  | record (fields : Fields) : Takes cs (.record fields)
  | bare : Takes cs (bareValue cs)

theorem takes_of_value {raw : List Char} {found : Value}
    (h : value fuel (Text.trim raw) = some (found, [])) : Takes (Text.trim raw) found := by
  have hwhole {front rest : List Char} (htrim : Text.trim raw = front ++ rest)
      (hrest : skipSpace rest = []) : Text.trim raw = front := by
    rw [htrim, eq_nil_of_skipSpace htrim hrest, List.append_nil]
  cases fuel with
  | zero => cases h
  | succ fuel =>
      rw [value, skipSpace_trim] at h
      dsimp only at h
      split at h
      · next htrue =>
          obtain ⟨rfl, hrest⟩ := Prod.mk.inj (Option.some.inj h)
          exact .flag true (Or.inl (hwhole (Text.after?_eq_some_iff.mp htrue) hrest))
      · next hfalse _ =>
          obtain ⟨rfl, hrest⟩ := Prod.mk.inj (Option.some.inj h)
          exact .flag false (Or.inr (hwhole (Text.after?_eq_some_iff.mp hfalse) hrest))
      · split at h
        · obtain ⟨_, hfields, hend⟩ := Option.bind_eq_some_iff.mp h
          obtain ⟨_, -, rfl⟩ := Option.map_eq_some_iff.mp hfields
          obtain ⟨rfl, -⟩ := Prod.mk.inj (Option.some.inj hend)
          exact .record _
        · obtain ⟨_, hitems, hend⟩ := Option.bind_eq_some_iff.mp h
          obtain ⟨_, -, rfl⟩ := Option.map_eq_some_iff.mp hitems
          obtain ⟨rfl, -⟩ := Prod.mk.inj (Option.some.inj hend)
          exact .list _
        · next behind hquote =>
            obtain ⟨_, htext, hend⟩ := Option.bind_eq_some_iff.mp h
            obtain ⟨⟨text, rest⟩, hread, rfl⟩ := Option.map_eq_some_iff.mp htext
            obtain ⟨rfl, hrest⟩ := Prod.mk.inj (Option.some.inj hend)
            obtain ⟨written, rfl, hquoted⟩ := quoted_of_quotedText hread
            have htrim : Text.trim raw = '"' :: written := hwhole hquote hrest
            rw [htrim]
            exact .text (.double hquoted)
        · next c behind hquote =>
            obtain ⟨rfl, hrest⟩ := Prod.mk.inj (Option.some.inj h)
            have htrim : Text.trim raw = ['\'', c, '\''] := hwhole hquote hrest
            rw [htrim]
            exact .char (.single c)
        · cases h
        · obtain ⟨rfl, hrest⟩ := Prod.mk.inj (Option.some.inj h)
          rw [← hwhole List.takeWhile_append_dropWhile.symm hrest]
          exact .bare

/-- The value is a number. -/
def IsNumeric (value : Value) : Prop :=
  (∃ i, value = .int i) ∨ value = .negativeZero ∨ ∃ f, value = .float f

theorem wholeValue_cases (cs : List Char) :
    ((∃ n, Text.readNat (word64 - 1) cs = .ok n) ∨
      ∃ i, Text.readInt (signedWord64 - 1) cs = .ok i) ∧ IsNumeric (wholeValue cs) ∨
    ¬((∃ n, Text.readNat (word64 - 1) cs = .ok n) ∨
      ∃ i, Text.readInt (signedWord64 - 1) cs = .ok i) ∧
      wholeValue cs = .text (String.ofList cs) := by
  unfold wholeValue
  cases hnat : Text.readNat (word64 - 1) cs with
  | ok n => exact Or.inl ⟨Or.inl ⟨n, rfl⟩, Or.inl ⟨_, rfl⟩⟩
  | error _ =>
      cases hint : Text.readInt (signedWord64 - 1) cs with
      | error _ => simp
      | ok i =>
          refine Or.inl ⟨Or.inr ⟨i, rfl⟩, ?_⟩
          split
          · exact Or.inl ⟨_, rfl⟩
          · exact Or.inr (Or.inl rfl)
          · exact Or.inl ⟨_, rfl⟩
          · next hneither => exact absurd rfl (hneither i)

/-- What stands without quotes is a number, or spells itself. -/
theorem bareValue_cases (raw : List Char) :
    IsNumber (Text.trim raw) ∧ IsNumeric (bareValue (Text.trim raw)) ∨
      ¬IsNumber (Text.trim raw) ∧
        bareValue (Text.trim raw) = .text (String.ofList (Text.trim raw)) := by
  unfold bareValue
  dsimp only
  rw [Text.trim_trim]
  generalize Text.trim raw = cs
  have hwhole (hpoint : ¬('.' ∈ cs ∧ ∃ d, Decimal.parse? cs = some d)) :
      IsNumber cs ∧ IsNumeric (wholeValue cs) ∨
        ¬IsNumber cs ∧ wholeValue cs = .text (String.ofList cs) := by
    rw [IsNumber, ← or_assoc, or_iff_left hpoint]
    exact wholeValue_cases cs
  cases hmem : cs.contains '.' with
  | false =>
      rw [if_neg Bool.false_ne_true]
      exact hwhole fun h => Bool.eq_false_iff.mp hmem (List.contains_iff_mem.mpr h.1)
  | true =>
      rw [if_pos rfl]
      cases hd : Decimal.parse? cs with
      | none => exact hwhole fun ⟨_, d, h⟩ => nomatch hd.symm.trans h
      | some d =>
          exact Or.inl ⟨Or.inr (Or.inr ⟨List.contains_iff_mem.mp hmem, d, hd⟩),
            Or.inr (Or.inr ⟨_, rfl⟩)⟩

theorem bareValue_of_not_isNumber {raw : List Char} (h : ¬IsNumber (Text.trim raw)) :
    bareValue (Text.trim raw) = .text (String.ofList (Text.trim raw)) :=
  ((bareValue_cases raw).resolve_left fun hnumber => h hnumber.1).2

/-- Everything else spells itself. -/
theorem parse_eq_text {raw : String} (hflag : ¬IsFlag (Text.trim raw.toList))
    (hnumber : ¬IsNumber (Text.trim raw.toList))
    (hquotes : ∀ text, ¬InQuotes (Text.trim raw.toList) text)
    (hcollection : ¬IsCollection (Text.trim raw.toList)) :
    parse raw = .text (Text.trimmed raw) := by
  unfold parse
  dsimp only
  split
  · next found hvalue =>
      cases takes_of_value hvalue with
      | flag _ h => exact absurd h hflag
      | text h => exact absurd h (hquotes _)
      | char h => exact absurd h (hquotes _)
      | list items => exact absurd ⟨_, hvalue, Or.inl ⟨items, rfl⟩⟩ hcollection
      | record fields => exact absurd ⟨_, hvalue, Or.inr ⟨fields, rfl⟩⟩ hcollection
      | bare => exact bareValue_of_not_isNumber hnumber
  · rfl

theorem parse_of_value {raw : String} {found : Value}
    (h : value (2 * (Text.trim raw.toList).length + 2) (Text.trim raw.toList) = some (found, [])) :
    parse raw = found := by
  unfold parse
  dsimp only
  rw [h]

theorem parse_of_isCollection {raw : String} (h : IsCollection (Text.trim raw.toList)) :
    (∃ items, parse raw = .list items) ∨ ∃ fields, parse raw = .record fields := by
  obtain ⟨found, hvalue, hfound⟩ := h
  rwa [parse_of_value hvalue]

/-- The value is there and is no text. -/
def IsOther (value : Value) : Prop :=
  (∃ b, value = .bool b) ∨ IsNumeric value ∨ (∃ items, value = .list items) ∨
    ∃ fields, value = .record fields

theorem parse_of_isNumber {raw : String} (h : IsNumber (Text.trim raw.toList)) :
    IsNumeric (parse raw) := by
  have hne : Text.trim raw.toList ≠ [] := by
    intro hnil
    rw [hnil] at h
    rcases h with ⟨_, h⟩ | ⟨_, h⟩ | ⟨h, -⟩
    all_goals cases h
  rw [parse_of_value (value_of_numberChars hne (all_of_isNumber h))]
  exact ((bareValue_cases raw.toList).resolve_right fun hnot => hnot.1 h).2

theorem parse_of_isFlag {raw : String} (h : IsFlag (Text.trim raw.toList)) :
    ∃ b, parse raw = .bool b := by
  rcases h with h | h
  · exact ⟨true, parse_of_value (by rw [h]; rfl)⟩
  · exact ⟨false, parse_of_value (by rw [h]; rfl)⟩

/-- The value is a text, be it one of a single character. -/
def IsText (value : Value) (text : String) : Prop :=
  value = .text text ∨ ∃ c, value = .char c ∧ text = c.toString

/-- A text in quotes stands for what is between them. -/
theorem parse_of_inQuotes {raw : String} {text : List Char}
    (h : InQuotes (Text.trim raw.toList) text) : IsText (parse raw) (String.ofList text) := by
  generalize hcs : Text.trim raw.toList = cs at h
  cases h with
  | @double written text hquoted =>
      have hread : quotedText (written.length + 1) written = some (text, []) :=
        (quotedText_eq_some_iff (Nat.le_succ _)).mpr ⟨written, by simp, hquoted⟩
      left
      apply parse_of_value
      rw [hcs, value, show skipSpace ('"' :: written) = '"' :: written from rfl]
      simp [hread, Text.after?, skipSpace]
  | single c =>
      right
      refine ⟨c, parse_of_value ?_, rfl⟩
      rw [hcs]
      rfl

end WorkloadIdentity.Environment

import WorkloadIdentity.Json.Reader

/-!
How JSON is spelled. `Spelled json bytes` says that the bytes are a spelling of the value, blanks
around it included, and `SpelledText cs raw` that the bytes between two quotes spell the characters.
A value has many spellings: blanks may stand between its parts, the members of an object in any
order, and a character for itself or as an escape. A text is undecoded in a value, so one whose
escapes name no characters is still a text of the grammar.
-/

namespace WorkloadIdentity.Json

/-- Spaces, tabs, line feeds and carriage returns, as many as there are. -/
def IsBlank (bs : Bytes) : Prop := ∀ b ∈ bs, b = 0x20 ∨ b = 0x09 ∨ b = 0x0A ∨ b = 0x0D

/-! ### Numbers -/

/-- A run of digits. -/
structure Digits where
  bytes : Bytes
  nonempty : bytes ≠ []
  all_digits : ∀ b ∈ bytes, 0x30 ≤ b ∧ b ≤ 0x39

/-- The power of ten of a number, with its sign and its letter. -/
structure Exponent where
  letter : UInt8
  letter_eq : letter = 0x65 ∨ letter = 0x45
  sign : Bytes
  sign_eq : sign = [] ∨ sign = [0x2B] ∨ sign = [0x2D]
  digits : Digits

def Exponent.spelled (e : Exponent) : Bytes := e.letter :: (e.sign ++ e.digits.bytes)

def Exponent.value (e : Exponent) : Int :=
  let n : Int := Decimal.valueOf (digitChars e.digits.bytes)
  if e.sign = [0x2D] then -n else n

/-- A number without its sign. -/
structure Numeral where
  whole : Digits
  /-- A zero in front stands alone. -/
  zero_alone : whole.bytes.head? = some 0x30 → whole.bytes.length = 1
  fraction : Option Digits
  exponent : Option Exponent

namespace Numeral

def fractionSpelled (n : Numeral) : Bytes := n.fraction.elim [] (0x2E :: ·.bytes)

def exponentSpelled (n : Numeral) : Bytes := n.exponent.elim [] Exponent.spelled

def spelled (n : Numeral) : Bytes := n.whole.bytes ++ (n.fractionSpelled ++ n.exponentSpelled)

def value (negative : Bool) (n : Numeral) : Decimal :=
  Decimal.ofParts negative (digitChars n.whole.bytes) (digitChars (n.fraction.elim [] (·.bytes)))
    (n.exponent.elim 0 Exponent.value) (n.fraction.isNone && n.exponent.isNone)

end Numeral

/-! ### Texts -/

/-- The short escapes: what stands behind the backslash, and the character that is meant. -/
def shortEscapes : List (UInt8 × Char) :=
  [(0x22, '"'), (0x5C, '\\'), (0x2F, '/'), (0x62, '\x08'), (0x66, '\x0C'), (0x6E, '\n'),
    (0x72, '\r'), (0x74, '\t')]

/-- The hexadecimal digits, the later ones in either case. -/
inductive HexDigit : UInt8 → Nat → Prop where
  | decimal {n : Nat} (h : n < 10) : HexDigit (UInt8.ofNat (0x30 + n)) n
  | upper {n : Nat} (h : n < 6) : HexDigit (UInt8.ofNat (0x41 + n)) (10 + n)
  | lower {n : Nat} (h : n < 6) : HexDigit (UInt8.ofNat (0x61 + n)) (10 + n)

/-- The number that four hexadecimal digits spell. -/
inductive HexQuad : UInt8 → UInt8 → UInt8 → UInt8 → Nat → Prop where
  | mk {a b c d : UInt8} {w x y z : Nat} (ha : HexDigit a w) (hb : HexDigit b x)
      (hc : HexDigit c y) (hd : HexDigit d z) : HexQuad a b c d (((w * 16 + x) * 16 + y) * 16 + z)

/-- What may stand between two quotes: bytes that are no control characters, no quotes and no
backslashes, and escapes. -/
inductive IsTextBody : Bytes → Prop where
  | nil : IsTextBody []
  | plain {b : UInt8} {rest : Bytes} (hcontrol : ¬b < 0x20) (hquote : b ≠ 0x22) (hmark : b ≠ 0x5C)
      (hrest : IsTextBody rest) : IsTextBody (b :: rest)
  | short {b : UInt8} {c : Char} {rest : Bytes} (hescape : (b, c) ∈ shortEscapes)
      (hrest : IsTextBody rest) : IsTextBody (0x5C :: b :: rest)
  | unit {a b c d : UInt8} {n : Nat} {rest : Bytes} (hquad : HexQuad a b c d n)
      (hrest : IsTextBody rest) : IsTextBody (0x5C :: 0x75 :: a :: b :: c :: d :: rest)

/-- The spellings of a character: itself, a short escape, its number in hexadecimal digits, or a
pair of surrogates. -/
inductive SpelledChar : Char → Bytes → Prop where
  | plain {c : Char} (hcontrol : ' ' ≤ c) (hquote : c ≠ '"') (hmark : c ≠ '\\') :
      SpelledChar c (String.utf8EncodeChar c)
  | short {b : UInt8} {c : Char} (hescape : (b, c) ∈ shortEscapes) : SpelledChar c [0x5C, b]
  | unit {a b c d : UInt8} {n : Nat} (hquad : HexQuad a b c d n)
      (hscalar : n < 0xD800 ∨ 0xDFFF < n) :
      SpelledChar (Char.ofNat n) [0x5C, 0x75, a, b, c, d]
  | pair {a b c d e f g h : UInt8} {n m : Nat} (hquad : HexQuad a b c d n)
      (hhigh : 0xD800 ≤ n ∧ n ≤ 0xDBFF) (hsecond : HexQuad e f g h m)
      (hlow : 0xDC00 ≤ m ∧ m ≤ 0xDFFF) :
      SpelledChar (Char.ofNat (0x10000 + (n - 0xD800) * 0x400 + (m - 0xDC00)))
        [0x5C, 0x75, a, b, c, d, 0x5C, 0x75, e, f, g, h]

/-- The spellings of a text, between its quotes. -/
inductive SpelledText : List Char → Bytes → Prop where
  | nil : SpelledText [] []
  | cons {c : Char} {cs : List Char} {front raw : Bytes} (hchar : SpelledChar c front)
      (hrest : SpelledText cs raw) : SpelledText (c :: cs) (front ++ raw)

/-! ### Values -/

mutual

/-- The spellings of a value, without blanks around it. -/
inductive Spelling : Json → Bytes → Prop where
  | null : Spelling .null [0x6E, 0x75, 0x6C, 0x6C]
  | true : Spelling (.bool true) [0x74, 0x72, 0x75, 0x65]
  | false : Spelling (.bool false) [0x66, 0x61, 0x6C, 0x73, 0x65]
  | positive (n : Numeral) : Spelling (.number (n.value false)) n.spelled
  | negative (n : Numeral) : Spelling (.number (n.value true)) (0x2D :: n.spelled)
  | text {raw : Bytes} (hraw : IsTextBody raw) : Spelling (.text raw) (0x22 :: (raw ++ [0x22]))
  | emptyArray {ws : Bytes} (hws : IsBlank ws) : Spelling (.array []) (0x5B :: (ws ++ [0x5D]))
  | array {items : List Json} {inner : Bytes} (hitems : SpelledItems items inner) :
      Spelling (.array items) (0x5B :: (inner ++ [0x5D]))
  | emptyObject {ws : Bytes} (hws : IsBlank ws) : Spelling (.object []) (0x7B :: (ws ++ [0x7D]))
  | object {members : List (Bytes × Json)} {inner : Bytes}
      (hmembers : SpelledMembers members inner) :
      Spelling (.object members) (0x7B :: (inner ++ [0x7D]))

/-- The spellings of a value with blanks around it. -/
inductive Spelled : Json → Bytes → Prop where
  | mk {json : Json} {ws body ws' : Bytes} (hws : IsBlank ws) (hbody : Spelling json body)
      (hws' : IsBlank ws') : Spelled json (ws ++ (body ++ ws'))

/-- The items of a nonempty array, with commas between them. -/
inductive SpelledItems : List Json → Bytes → Prop where
  | last {item : Json} {front : Bytes} (hitem : Spelled item front) : SpelledItems [item] front
  | more {item : Json} {others : List Json} {front rest : Bytes} (hitem : Spelled item front)
      (hothers : SpelledItems others rest) :
      SpelledItems (item :: others) (front ++ 0x2C :: rest)

/-- The members of a nonempty object, with commas between them. -/
inductive SpelledMembers : List (Bytes × Json) → Bytes → Prop where
  | last {m : Bytes × Json} {front : Bytes} (hmember : SpelledMember m front) :
      SpelledMembers [m] front
  | more {m : Bytes × Json} {others : List (Bytes × Json)} {front rest : Bytes}
      (hmember : SpelledMember m front) (hothers : SpelledMembers others rest) :
      SpelledMembers (m :: others) (front ++ 0x2C :: rest)

/-- A name and a value with a colon between them. -/
inductive SpelledMember : Bytes × Json → Bytes → Prop where
  | mk {name : Bytes} {item : Json} {ws ws' front : Bytes} (hws : IsBlank ws)
      (hname : IsTextBody name) (hws' : IsBlank ws') (hitem : Spelled item front) :
      SpelledMember (name, item) (ws ++ 0x22 :: (name ++ 0x22 :: (ws' ++ 0x3A :: front)))

end

/-! ### Blanks in front -/

variable {json : Json} {ws ws' bs inner : Bytes}

theorem IsBlank.append (hws : IsBlank ws) (hws' : IsBlank ws') : IsBlank (ws ++ ws') := by
  intro b hb
  rcases List.mem_append.mp hb with hb | hb
  · exact hws b hb
  · exact hws' b hb

theorem Spelled.pad (hws : IsBlank ws) (h : Spelled json bs) : Spelled json (ws ++ bs) := by
  obtain ⟨hfront, hbody, hback⟩ := h
  rw [← List.append_assoc]
  exact .mk (hws.append hfront) hbody hback

theorem SpelledItems.pad {items : List Json} (hws : IsBlank ws) (h : SpelledItems items inner) :
    SpelledItems items (ws ++ inner) := by
  cases h with
  | last hitem => exact .last (hitem.pad hws)
  | more hitem hothers =>
      rw [← List.append_assoc]
      exact .more (hitem.pad hws) hothers

theorem SpelledMember.pad {m : Bytes × Json} (hws : IsBlank ws) (h : SpelledMember m bs) :
    SpelledMember m (ws ++ bs) := by
  obtain ⟨hfront, hname, hback, hitem⟩ := h
  rw [← List.append_assoc]
  exact .mk (hws.append hfront) hname hback hitem

theorem SpelledMembers.pad {members : List (Bytes × Json)} (hws : IsBlank ws)
    (h : SpelledMembers members inner) : SpelledMembers members (ws ++ inner) := by
  cases h with
  | last hmember => exact .last (hmember.pad hws)
  | more hmember hothers =>
      rw [← List.append_assoc]
      exact .more (hmember.pad hws) hothers

/-- No value is spelled by nothing. -/
theorem Spelling.ne_nil (h : Spelling json bs) : bs ≠ [] := by
  cases h with
  | positive n => exact List.append_ne_nil_of_left_ne_nil n.whole.nonempty _
  | _ => exact List.cons_ne_nil _ _

/-! ### Values inside values -/

/-- A value that has a spelling: its texts and names are such as stand between quotes. -/
def IsSpelled (json : Json) : Prop := ∃ bs, Spelled json bs

theorem IsSpelled.text {raw : Bytes} (h : IsSpelled (.text raw)) : IsTextBody raw := by
  obtain ⟨_, _, hbody, _⟩ := h
  cases hbody
  assumption

theorem SpelledItems.isSpelled {items : List Json} (h : SpelledItems items inner) :
    ∀ item ∈ items, IsSpelled item := by
  induction items generalizing inner with
  | nil => cases h
  | cons first others ih =>
      intro item hitem
      cases h with
      | last hfirst =>
          rw [List.mem_singleton.mp hitem]
          exact ⟨_, hfirst⟩
      | more hfirst hothers =>
          rcases List.mem_cons.mp hitem with rfl | hitem
          · exact ⟨_, hfirst⟩
          · exact ih hothers item hitem

theorem IsSpelled.item {items : List Json} (h : IsSpelled (.array items)) :
    ∀ item ∈ items, IsSpelled item := by
  obtain ⟨_, _, hbody, _⟩ := h
  cases hbody with
  | emptyArray => exact nofun
  | array hitems => exact hitems.isSpelled

theorem SpelledMember.isSpelled {m : Bytes × Json} (h : SpelledMember m bs) :
    IsTextBody m.1 ∧ IsSpelled m.2 := by
  obtain ⟨_, hname, _, hitem⟩ := h
  exact ⟨hname, _, hitem⟩

theorem SpelledMembers.isSpelled {members : List (Bytes × Json)}
    (h : SpelledMembers members inner) : ∀ m ∈ members, IsTextBody m.1 ∧ IsSpelled m.2 := by
  induction members generalizing inner with
  | nil => cases h
  | cons first others ih =>
      intro m hm
      cases h with
      | last hfirst =>
          rw [List.mem_singleton.mp hm]
          exact hfirst.isSpelled
      | more hfirst hothers =>
          rcases List.mem_cons.mp hm with rfl | hm
          · exact hfirst.isSpelled
          · exact ih hothers m hm

theorem IsSpelled.member {members : List (Bytes × Json)} (h : IsSpelled (.object members)) :
    ∀ m ∈ members, IsTextBody m.1 ∧ IsSpelled m.2 := by
  obtain ⟨_, _, hbody, _⟩ := h
  cases hbody with
  | emptyObject => exact nofun
  | object hmembers => exact hmembers.isSpelled

end WorkloadIdentity.Json

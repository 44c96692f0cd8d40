import Mathlib.Data.List.DropRight
import Mathlib.Data.List.TakeWhile
import WorkloadIdentity.Proofs.Json.Text
/-!
The reader of JSON and its grammar. What the reader takes is a spelling of what it gives (`sound`),
and every spelling is read (`complete`): the fuel never runs out, since every level of nesting and
every item has a byte of its own. So a body is read as the value that it spells
(`parse_eq_some_iff`).
-/

namespace WorkloadIdentity.Json

variable {json : Json} {bs rest : Bytes}

/-! ### Numbers -/

theorem isDigit_iff {b : UInt8} : isDigit b = true ↔ 0x30 ≤ b ∧ b ≤ 0x39 := by
  simp [isDigit]

theorem Digits.isDigit_of_mem (ds : Digits) : ∀ b ∈ ds.bytes, isDigit b = true :=
  fun b hb => isDigit_iff.mpr (ds.all_digits b hb)

/-- What stands behind a number: no byte that could be part of it. -/
def EndsNumber (rest : Bytes) : Prop :=
  ∀ b ∈ rest.head?, isDigit b = false ∧ b ≠ 0x2E ∧ b ≠ 0x65 ∧ b ≠ 0x45

theorem takeWhile_isDigit (ds : Digits) (h : ∀ b ∈ rest.head?, isDigit b = false) :
    (ds.bytes ++ rest).takeWhile isDigit = ds.bytes := by
  rw [List.takeWhile_append_of_pos ds.isDigit_of_mem]
  cases rest with
  | nil => exact List.append_nil _
  | cons b rest => rw [List.takeWhile_cons_of_neg (by simp [h b rfl]), List.append_nil]

theorem dropWhile_isDigit (ds : Digits) (h : ∀ b ∈ rest.head?, isDigit b = false) :
    (ds.bytes ++ rest).dropWhile isDigit = rest := by
  rw [List.dropWhile_append_of_pos ds.isDigit_of_mem]
  cases rest with
  | nil => rfl
  | cons b rest => rw [List.dropWhile_cons_of_neg (by simp [h b rfl])]

/-- The digits in front, if there are any. -/
theorem exists_digits (h : (bs.takeWhile isDigit).isEmpty = false) :
    ∃ ds : Digits, ds.bytes = bs.takeWhile isDigit ∧ bs = ds.bytes ++ bs.dropWhile isDigit :=
  ⟨⟨bs.takeWhile isDigit, by simpa using h, fun _ hb => isDigit_iff.mp (List.mem_takeWhile_imp hb)⟩,
    rfl, List.takeWhile_append_dropWhile.symm⟩

theorem fraction?_sound {fraction : Option Bytes} (h : fraction? bs = some (fraction, rest)) :
    ∃ ds? : Option Digits, fraction = ds?.map (·.bytes) ∧
      bs = ds?.elim [] (0x2E :: ·.bytes) ++ rest := by
  unfold fraction? at h
  split at h
  · next later =>
      cases hempty : (later.takeWhile isDigit).isEmpty with
      | true => simp [hempty] at h
      | false =>
          obtain ⟨ds, hds, hlater⟩ := exists_digits hempty
          simp only [hempty, Bool.false_eq_true, if_false, Option.some.injEq,
            Prod.mk.injEq] at h
          obtain ⟨rfl, rfl⟩ := h
          refine ⟨some ds, by rw [← hds]; rfl, ?_⟩
          rw [Option.elim_some, List.cons_append, ← hlater]
  · cases h
    exact ⟨none, rfl, rfl⟩

theorem fraction?_complete (ds? : Option Digits)
    (h : ∀ b ∈ rest.head?, isDigit b = false ∧ b ≠ 0x2E) :
    fraction? (ds?.elim [] (0x2E :: ·.bytes) ++ rest) = some (ds?.map (·.bytes), rest) := by
  have hdigit : ∀ b ∈ rest.head?, isDigit b = false := fun b hb => (h b hb).1
  cases ds? with
  | none =>
      cases rest with
      | nil => rfl
      | cons b rest => exact fraction?.eq_2 (b :: rest) fun _ hb => (h b rfl).2 (by cases hb; rfl)
  | some ds =>
      have hnonempty : ds.bytes.isEmpty = false := by simpa using ds.nonempty
      rw [Option.elim_some, List.cons_append, fraction?]
      simp only [takeWhile_isDigit ds hdigit, dropWhile_isDigit ds hdigit, hnonempty,
        Bool.false_eq_true, if_false]
      rfl

/-- Nothing but a digit begins a run of digits. -/
theorem Digits.append_ne_cons (ds : Digits) {b : UInt8} (h : isDigit b = false) (later : Bytes) :
    ds.bytes ++ rest ≠ b :: later := by
  intro hbytes
  obtain ⟨d, tail, hds⟩ := List.exists_cons_of_ne_nil ds.nonempty
  have hd := ds.isDigit_of_mem d (by rw [hds]; exact List.mem_cons_self)
  rw [hds, List.cons_append, List.cons.injEq] at hbytes
  rw [hbytes.1, h] at hd
  cases hd

/-- The sign of an exponent, if it has one. -/
theorem exists_sign {later : Bytes} {negative : Bool}
    (h : (match bs with
      | 0x2B :: rest => (false, rest)
      | 0x2D :: rest => (true, rest)
      | rest => (false, rest)) = (negative, later)) :
    ∃ sign : Bytes, (sign = [] ∨ sign = [0x2B] ∨ sign = [0x2D]) ∧
      (sign = [0x2D] ↔ negative = true) ∧ bs = sign ++ later := by
  split at h
  all_goals cases h
  · exact ⟨[0x2B], .inr (.inl rfl), by decide, rfl⟩
  · exact ⟨[0x2D], .inr (.inr rfl), by decide, rfl⟩
  · exact ⟨[], .inl rfl, by decide, rfl⟩

theorem exponent?_sound {exponent : Option Int} (h : exponent? bs = some (exponent, rest)) :
    ∃ e? : Option Exponent, exponent = e?.map Exponent.value ∧
      bs = e?.elim [] Exponent.spelled ++ rest := by
  unfold exponent? at h
  split at h
  · next letter later =>
      split at h
      · next hletter =>
          split at h
          next negative signless hsign =>
          obtain ⟨sign, hkind, hnegative, rfl⟩ := exists_sign hsign
          cases hempty : (signless.takeWhile isDigit).isEmpty with
          | true => simp [hempty] at h
          | false =>
              obtain ⟨ds, hds, hsignless⟩ := exists_digits hempty
              simp only [hempty, Bool.false_eq_true, if_false, Option.some.injEq,
                Prod.mk.injEq] at h
              obtain ⟨rfl, rfl⟩ := h
              have hletter' : letter = 0x65 ∨ letter = 0x45 := by simpa using hletter
              let e : Exponent := ⟨letter, hletter', sign, hkind, ds⟩
              refine ⟨some e, ?_, ?_⟩
              · simp only [Option.map_some, Exponent.value, e, hds, hnegative]
              · simp only [Option.elim_some, Exponent.spelled, e, List.cons_append,
                  List.append_assoc, ← hsignless]
      · cases h
        exact ⟨none, rfl, rfl⟩
  · cases h
    exact ⟨none, rfl, rfl⟩

theorem exponent?_complete (e? : Option Exponent) (h : EndsNumber rest) :
    exponent? (e?.elim [] Exponent.spelled ++ rest) = some (e?.map Exponent.value, rest) := by
  have hdigit : ∀ b ∈ rest.head?, isDigit b = false := fun b hb => (h b hb).1
  cases e? with
  | none =>
      cases rest with
      | nil => rfl
      | cons b rest =>
          obtain ⟨_, _, hsmall, hlarge⟩ := h b rfl
          have hletter : (b == 0x65 || b == 0x45) = false := by simp [hsmall, hlarge]
          simp only [Option.elim_none, List.nil_append, exponent?, hletter, Bool.false_eq_true,
            if_false]
          rfl
  | some e =>
      obtain ⟨letter, hletter, sign, hsign, ds⟩ := e
      have hnonempty : ds.bytes.isEmpty = false := by simpa using ds.nonempty
      have hletter' : (letter == 0x65 || letter == 0x45) = true := by simpa using hletter
      simp only [Option.elim_some, Exponent.spelled, List.cons_append, List.append_assoc]
      rcases hsign with rfl | rfl | rfl
      · rw [List.nil_append, exponent?.eq_3 _ _ (ds.append_ne_cons (by decide))
          (ds.append_ne_cons (by decide))]
        simp only [hletter', if_true, takeWhile_isDigit ds hdigit, dropWhile_isDigit ds hdigit,
          hnonempty, Bool.false_eq_true, if_false]
        rfl
      all_goals
        simp only [List.cons_append, List.nil_append, exponent?, hletter', if_true,
          takeWhile_isDigit ds hdigit, dropWhile_isDigit ds hdigit, hnonempty, Bool.false_eq_true,
          if_false]
        rfl

theorem unsigned_sound {negative : Bool} (h : unsigned negative bs = some (json, rest)) :
    ∃ n : Numeral, json = .number (n.value negative) ∧ bs = n.spelled ++ rest := by
  simp only [unsigned, Option.bind_eq_bind, Option.pure_def] at h
  split at h
  · cases h
  · next hwhole =>
      simp only [Option.bind_eq_some_iff] at h
      obtain ⟨⟨fraction, behind⟩, hfraction, ⟨exponent, later⟩, hexponent, h⟩ := h
      obtain ⟨rfl, rfl⟩ := Prod.mk.inj (Option.some.inj h)
      obtain ⟨fraction?, rfl, hbehind⟩ := fraction?_sound hfraction
      obtain ⟨exponent?, rfl, rfl⟩ := exponent?_sound hexponent
      simp only [Bool.or_eq_true, not_or, Bool.not_eq_true] at hwhole
      obtain ⟨ds, hds, hbs⟩ := exists_digits hwhole.1
      have hzero : ds.bytes.head? = some 0x30 → ds.bytes.length = 1 := by
        intro hhead
        have hlength := List.length_pos_iff.mpr ds.nonempty
        have hshort := hwhole.2
        rw [← hds, hhead] at hshort
        simp at hshort
        omega
      let n : Numeral := ⟨ds, hzero, fraction?, exponent?⟩
      refine ⟨n, ?_, ?_⟩
      · simp only [Numeral.value, n, hds]
        cases fraction?
        all_goals
          cases exponent?
          all_goals rfl
      · rw [Numeral.spelled, List.append_assoc, List.append_assoc, hbs, hbehind]
        rfl

theorem unsigned_complete (negative : Bool) (n : Numeral) (h : EndsNumber rest) :
    unsigned negative (n.spelled ++ rest) = some (.number (n.value negative), rest) := by
  have hexponent := exponent?_complete n.exponent h
  have hbehind : ∀ b ∈ (n.exponentSpelled ++ rest).head?, isDigit b = false ∧ b ≠ 0x2E := by
    intro b hb
    rw [Numeral.exponentSpelled] at hb
    cases hkind : n.exponent with
    | none =>
        rw [hkind] at hb
        exact ⟨(h b hb).1, (h b hb).2.1⟩
    | some e =>
        rw [hkind] at hb
        obtain rfl : e.letter = b := Option.some.inj hb
        rcases e.letter_eq with hletter | hletter
        all_goals
          rw [hletter]
          decide
  have hfraction := fraction?_complete n.fraction hbehind
  have hdigit : ∀ b ∈ (n.fractionSpelled ++ (n.exponentSpelled ++ rest)).head?,
      isDigit b = false := by
    intro b hb
    rw [Numeral.fractionSpelled] at hb
    cases hkind : n.fraction with
    | none =>
        rw [hkind] at hb
        exact (hbehind b hb).1
    | some ds =>
        rw [hkind] at hb
        obtain rfl : 0x2E = b := Option.some.inj hb
        decide
  have hwhole : (n.whole.bytes.isEmpty ||
      (n.whole.bytes.head? == some 0x30 && decide (1 < n.whole.bytes.length))) = false := by
    rw [Bool.or_eq_false_iff]
    refine ⟨by simpa using n.whole.nonempty, ?_⟩
    cases hhead : n.whole.bytes.head? == some 0x30 with
    | false => rfl
    | true => simp [n.zero_alone (eq_of_beq hhead)]
  rw [Numeral.spelled, List.append_assoc, List.append_assoc]
  simp only [unsigned, takeWhile_isDigit n.whole hdigit, dropWhile_isDigit n.whole hdigit, hwhole,
    Bool.false_eq_true, if_false, Option.bind_eq_bind, Option.pure_def]
  rw [Numeral.fractionSpelled, hfraction, Option.bind_some, Numeral.exponentSpelled, hexponent,
    Option.bind_some, Numeral.value]
  cases n.fraction
  all_goals
    cases n.exponent
    all_goals rfl

/-! ### Blanks -/

variable {ws : Bytes}

theorem isSpace_iff {b : UInt8} :
    isSpace b = true ↔ b = 0x20 ∨ b = 0x09 ∨ b = 0x0A ∨ b = 0x0D := by
  simp [isSpace, or_assoc]

theorem exists_skipSpace (bs : Bytes) : ∃ ws, IsBlank ws ∧ bs = ws ++ skipSpace bs :=
  ⟨bs.takeWhile isSpace, fun _ hb => isSpace_iff.mp (List.mem_takeWhile_imp hb),
    List.takeWhile_append_dropWhile.symm⟩

theorem skipSpace_append (hws : IsBlank ws) : skipSpace (ws ++ bs) = skipSpace bs :=
  List.dropWhile_append_of_pos fun b hb => isSpace_iff.mpr (hws b hb)

theorem skipSpace_of_head (h : ∀ b ∈ bs.head?, isSpace b = false) : skipSpace bs = bs := by
  cases bs with
  | nil => rfl
  | cons b bs => exact List.dropWhile_cons_of_neg (by simp [h b rfl])

theorem afterWord?_eq_some_iff {word : Bytes} :
    afterWord? word bs = some rest ↔ bs = word ++ rest := by
  unfold afterWord?
  split
  · next h =>
      obtain ⟨later, rfl⟩ := List.isPrefixOf_iff_prefix.mp h
      rw [List.drop_left, Option.some.injEq, List.append_cancel_left_eq]
  · next h =>
      refine iff_of_false nofun ?_
      rintro rfl
      exact h (List.isPrefixOf_iff_prefix.mpr (List.prefix_append word rest))

theorem afterWord?_append (word : Bytes) : afterWord? word (word ++ rest) = some rest :=
  afterWord?_eq_some_iff.mpr rfl

/-! ### What the reader accepts -/

/-- What the readers give is spelled by the bytes that they take. -/
structure Sound (fuel : Nat) : Prop where
  value : ∀ {bs json rest}, Json.value fuel bs = some (json, rest) →
    ∃ ws body, IsBlank ws ∧ Spelling json body ∧ bs = ws ++ (body ++ rest)
  items : ∀ {bs js rest}, Json.items fuel bs = some (js, rest) →
    ∃ inner, SpelledItems js inner ∧ bs = inner ++ 0x5D :: rest
  members : ∀ {bs ms rest}, Json.members fuel bs = some (ms, rest) →
    ∃ inner, SpelledMembers ms inner ∧ bs = inner ++ 0x7D :: rest

variable {fuel : Nat}

theorem value_sound (h : Sound fuel) (hvalue : value (fuel + 1) bs = some (json, rest)) :
    ∃ ws body, IsBlank ws ∧ Spelling json body ∧ bs = ws ++ (body ++ rest) := by
  obtain ⟨ws, hws, hbs⟩ := exists_skipSpace bs
  suffices hbody : ∃ body, Spelling json body ∧ skipSpace bs = body ++ rest by
    obtain ⟨body, hspelling, hbody⟩ := hbody
    exact ⟨ws, body, hws, hspelling, by rw [← hbody]; exact hbs⟩
  clear hbs hws
  unfold value at hvalue
  generalize skipSpace bs = front at hvalue
  split at hvalue
  · next later =>
      simp only [Option.bind_eq_bind, Option.bind_eq_some_iff, Option.pure_def] at hvalue
      obtain ⟨⟨raw, behind⟩, htext, ⟨⟩⟩ := hvalue
      obtain ⟨hraw, rfl⟩ := textBody_sound htext
      exact ⟨_, .text hraw, by simp⟩
  · next later =>
      obtain ⟨ws, hws, hlater⟩ := exists_skipSpace later
      split at hvalue
      · next hskip =>
          cases hvalue
          rw [hskip] at hlater
          exact ⟨_, .emptyArray hws, by simp [hlater]⟩
      · simp only [Option.bind_eq_bind, Option.bind_eq_some_iff, Option.pure_def] at hvalue
        obtain ⟨⟨items, behind⟩, hitems, ⟨⟩⟩ := hvalue
        obtain ⟨inner, hinner, hskip⟩ := h.items hitems
        rw [hskip] at hlater
        exact ⟨_, .array (hinner.pad hws), by simp [hlater]⟩
  · next later =>
      obtain ⟨ws, hws, hlater⟩ := exists_skipSpace later
      split at hvalue
      · next hskip =>
          cases hvalue
          rw [hskip] at hlater
          exact ⟨_, .emptyObject hws, by simp [hlater]⟩
      · simp only [Option.bind_eq_bind, Option.bind_eq_some_iff, Option.pure_def] at hvalue
        obtain ⟨⟨members, behind⟩, hmembers, ⟨⟩⟩ := hvalue
        obtain ⟨inner, hinner, hskip⟩ := h.members hmembers
        rw [hskip] at hlater
        exact ⟨_, .object (hinner.pad hws), by simp [hlater]⟩
  · obtain ⟨n, rfl, rfl⟩ := unsigned_sound hvalue
    exact ⟨_, .negative n, rfl⟩
  · obtain ⟨behind, hword, ⟨⟩⟩ := Option.map_eq_some_iff.mp hvalue
    exact ⟨_, .null, by rw [afterWord?_eq_some_iff.mp hword]; rfl⟩
  · obtain ⟨behind, hword, ⟨⟩⟩ := Option.map_eq_some_iff.mp hvalue
    exact ⟨_, .true, by rw [afterWord?_eq_some_iff.mp hword]; rfl⟩
  · obtain ⟨behind, hword, ⟨⟩⟩ := Option.map_eq_some_iff.mp hvalue
    exact ⟨_, .false, by rw [afterWord?_eq_some_iff.mp hword]; rfl⟩
  · obtain ⟨n, rfl, rfl⟩ := unsigned_sound hvalue
    exact ⟨_, .positive n, rfl⟩

/-- A value with the blanks behind it. -/
theorem spelled_sound {later : Bytes} (h : Sound fuel) (hvalue : value fuel bs = some (json, rest))
    (hlater : skipSpace rest = later) : ∃ front, Spelled json front ∧ bs = front ++ later := by
  obtain ⟨ws, body, hws, hbody, rfl⟩ := h.value hvalue
  obtain ⟨ws', hws', hrest⟩ := exists_skipSpace rest
  refine ⟨_, .mk hws hbody hws', ?_⟩
  rw [List.append_assoc, List.append_assoc, ← hlater, ← hrest]

theorem items_sound {js : List Json} (h : Sound fuel)
    (hitems : items (fuel + 1) bs = some (js, rest)) :
    ∃ inner, SpelledItems js inner ∧ bs = inner ++ 0x5D :: rest := by
  simp only [items, Option.bind_eq_bind, Option.bind_eq_some_iff] at hitems
  obtain ⟨⟨item, behind⟩, hitem, hitems⟩ := hitems
  split at hitems
  · next hskip =>
      obtain ⟨front, hfront, rfl⟩ := spelled_sound h hitem hskip
      simp only [Option.bind_eq_some_iff, Option.pure_def] at hitems
      obtain ⟨⟨others, _⟩, hothers, ⟨⟩⟩ := hitems
      obtain ⟨inner, hinner, rfl⟩ := h.items hothers
      exact ⟨_, .more hfront hinner, by simp⟩
  · next hskip =>
      obtain ⟨front, hfront, rfl⟩ := spelled_sound h hitem hskip
      cases hitems
      exact ⟨front, .last hfront, rfl⟩
  · cases hitems

theorem members_sound {ms : List (Bytes × Json)} (h : Sound fuel)
    (hmembers : members (fuel + 1) bs = some (ms, rest)) :
    ∃ inner, SpelledMembers ms inner ∧ bs = inner ++ 0x7D :: rest := by
  obtain ⟨ws, hws, hbs⟩ := exists_skipSpace bs
  simp only [members, Option.bind_eq_bind, Option.pure_def] at hmembers
  split at hmembers
  case h_2 => cases hmembers
  next behindQuote hquote =>
  simp only [Option.bind_eq_some_iff] at hmembers
  obtain ⟨⟨name, behindName⟩, hname, hmembers⟩ := hmembers
  obtain ⟨hbody, rfl⟩ := textBody_sound hname
  obtain ⟨ws', hws', hbehindName⟩ := exists_skipSpace behindName
  split at hmembers
  case h_2 => cases hmembers
  next behindColon hcolon =>
  simp only [Option.bind_eq_some_iff] at hmembers
  obtain ⟨⟨item, behind⟩, hitem, hmembers⟩ := hmembers
  rw [hcolon] at hbehindName
  rw [hquote, hbehindName] at hbs
  split at hmembers
  · next hskip =>
      obtain ⟨front, hfront, rfl⟩ := spelled_sound h hitem hskip
      simp only [Option.bind_eq_some_iff] at hmembers
      obtain ⟨⟨others, _⟩, hothers, ⟨⟩⟩ := hmembers
      obtain ⟨inner, hinner, rfl⟩ := h.members hothers
      exact ⟨_, .more (.mk hws hbody hws' hfront) hinner, by simp [hbs]⟩
  · next hskip =>
      obtain ⟨front, hfront, rfl⟩ := spelled_sound h hitem hskip
      cases hmembers
      exact ⟨_, .last (.mk hws hbody hws' hfront), by simp [hbs]⟩
  · cases hmembers

theorem sound (fuel : Nat) : Sound fuel := by
  induction fuel with
  | zero => exact ⟨nofun, nofun, nofun⟩
  | succ fuel ih => exact ⟨value_sound ih, items_sound ih, members_sound ih⟩

/-! ### What the reader does not refuse -/

/-- What may stand behind a value: nothing, a comma, or a closing bracket or brace. -/
def Stops (rest : Bytes) : Prop := ∀ b ∈ rest.head?, b = 0x2C ∨ b = 0x5D ∨ b = 0x7D

theorem Stops.cons {b : UInt8} (h : b = 0x2C ∨ b = 0x5D ∨ b = 0x7D) : Stops (b :: rest) := by
  rintro _ ⟨⟩
  exact h

theorem Stops.skipSpace_eq (h : Stops rest) : skipSpace rest = rest := by
  refine skipSpace_of_head fun b hb => ?_
  rcases h b hb with rfl | rfl | rfl
  all_goals decide

/-- Blanks end a number, and so does what may stand behind a value. -/
theorem Stops.endsNumber (hws : IsBlank ws) (h : Stops rest) : EndsNumber (ws ++ rest) := by
  intro b hb
  cases ws with
  | nil =>
      rcases h b hb with rfl | rfl | rfl
      all_goals decide
  | cons x ws =>
      obtain rfl : x = b := Option.some.inj hb
      rcases hws x List.mem_cons_self with rfl | rfl | rfl | rfl
      all_goals decide

/-- A value is read if the fuel is as long as its spelling, items and members if it is longer. -/
structure Complete (fuel : Nat) : Prop where
  value : ∀ {json ws body rest}, IsBlank ws → Spelling json body → body.length ≤ fuel →
    EndsNumber rest → Json.value fuel (ws ++ (body ++ rest)) = some (json, rest)
  items : ∀ {js inner rest}, SpelledItems js inner → inner.length < fuel →
    Json.items fuel (inner ++ 0x5D :: rest) = some (js, rest)
  members : ∀ {ms inner rest}, SpelledMembers ms inner → inner.length < fuel →
    Json.members fuel (inner ++ 0x7D :: rest) = some (ms, rest)

theorem skipSpace_skipSpace : skipSpace (skipSpace bs) = skipSpace bs :=
  List.dropWhile_idempotent isSpace bs

theorem value_skipSpace (fuel : Nat) : value fuel (skipSpace bs) = value fuel bs := by
  cases fuel with
  | zero => rfl
  | succ fuel => simp only [value, skipSpace_skipSpace]

theorem items_skipSpace (fuel : Nat) : items fuel (skipSpace bs) = items fuel bs := by
  cases fuel with
  | zero => rfl
  | succ fuel => simp only [items, value_skipSpace]

theorem members_skipSpace (fuel : Nat) : members fuel (skipSpace bs) = members fuel bs := by
  cases fuel with
  | zero => rfl
  | succ fuel => simp only [members, skipSpace_skipSpace]

/-- Items do not begin with the bracket that ends them, -/
theorem items_bracket (fuel : Nat) : items fuel (0x5D :: bs) = none := by
  cases fuel with
  | zero => rfl
  | succ fuel =>
      cases fuel with
      | zero => rfl
      | succ fuel => rfl

/-- nor members with their brace. -/
theorem members_brace (fuel : Nat) : members fuel (0x7D :: bs) = none := by
  cases fuel with
  | zero => rfl
  | succ fuel => rfl

/-- A byte that is no blank is looked at as it is. -/
private theorem skipSpace_cons {b : UInt8} (h : isSpace b = false) :
    skipSpace (b :: bs) = b :: bs :=
  List.dropWhile_cons_of_neg (by simp [h])

theorem value_complete {body : Bytes} (h : Complete fuel) (hws : IsBlank ws)
    (hbody : Spelling json body) (hfuel : body.length ≤ fuel + 1) (hends : EndsNumber rest) :
    value (fuel + 1) (ws ++ (body ++ rest)) = some (json, rest) := by
  rw [← value_skipSpace, skipSpace_append hws, value_skipSpace]
  cases hbody with
  | null =>
      exact congrArg (Option.map (Json.null, ·)) (afterWord?_append [0x75, 0x6C, 0x6C])
  | true =>
      exact congrArg (Option.map (Json.bool true, ·)) (afterWord?_append [0x72, 0x75, 0x65])
  | false =>
      exact congrArg (Option.map (Json.bool false, ·)) (afterWord?_append [0x61, 0x6C, 0x73, 0x65])
  | positive n =>
      have hskip : skipSpace (n.spelled ++ rest) = n.spelled ++ rest := by
        rw [Numeral.spelled, List.append_assoc]
        refine skipSpace_of_head fun b hb => ?_
        obtain ⟨later, hlater⟩ := List.head?_eq_some_iff.mp hb
        cases hspace : isSpace b with
        | false => rfl
        | true =>
            refine absurd hlater (n.whole.append_ne_cons ?_ later)
            rcases isSpace_iff.mp hspace with rfl | rfl | rfl | rfl
            all_goals decide
      rw [value, hskip]
      split
      case h_8 => exact unsigned_complete false n hends
      all_goals
        next heq =>
        rw [Numeral.spelled, List.append_assoc] at heq
        exact absurd heq (n.whole.append_ne_cons (by decide) _)
  | negative n => exact unsigned_complete true n hends
  | @text raw hraw =>
      have htext : textBody (raw ++ 0x22 :: rest) = some (raw, rest) := textBody_complete hraw
      simp only [List.cons_append, List.append_assoc, List.nil_append, value,
        skipSpace_cons (b := 0x22) (by decide), htext]
      rfl
  | @emptyArray ws' hws' =>
      have hclose : skipSpace (ws' ++ 0x5D :: rest) = 0x5D :: rest := by
        rw [skipSpace_append hws']
        exact skipSpace_cons (by decide)
      simp only [List.cons_append, List.append_assoc, List.nil_append, value,
        skipSpace_cons (b := 0x5B) (by decide), hclose]
  | @array js inner hinner =>
      have hitems : items fuel (inner ++ 0x5D :: rest) = some (js, rest) := by
        apply h.items hinner
        simp only [List.length_cons, List.length_append] at hfuel
        omega
      rw [← items_skipSpace] at hitems
      simp only [List.cons_append, List.append_assoc, List.nil_append, value,
        skipSpace_cons (b := 0x5B) (by decide)]
      split
      · next hbracket =>
          rw [hbracket, items_bracket] at hitems
          cases hitems
      · rw [hitems]
        rfl
  | @emptyObject ws' hws' =>
      have hclose : skipSpace (ws' ++ 0x7D :: rest) = 0x7D :: rest := by
        rw [skipSpace_append hws']
        exact skipSpace_cons (by decide)
      simp only [List.cons_append, List.append_assoc, List.nil_append, value,
        skipSpace_cons (b := 0x7B) (by decide), hclose]
  | @object ms inner hinner =>
      have hmembers : members fuel (inner ++ 0x7D :: rest) = some (ms, rest) := by
        apply h.members hinner
        simp only [List.length_cons, List.length_append] at hfuel
        omega
      rw [← members_skipSpace] at hmembers
      simp only [List.cons_append, List.append_assoc, List.nil_append, value,
        skipSpace_cons (b := 0x7B) (by decide)]
      split
      · next hbrace =>
          rw [hbrace, members_brace] at hmembers
          cases hmembers
      · rw [hmembers]
        rfl

/-- A value with the blanks behind it. -/
theorem spelled_complete {front : Bytes} (later : Bytes) (h : Complete fuel)
    (hspelled : Spelled json front) (hfuel : front.length ≤ fuel) (hlater : Stops later) :
    ∃ behind, value fuel (front ++ later) = some (json, behind) ∧ skipSpace behind = later := by
  obtain ⟨hws, hbody, hws'⟩ := hspelled
  next ws body ws' =>
  refine ⟨ws' ++ later, ?_, ?_⟩
  · rw [List.append_assoc, List.append_assoc]
    simp only [List.length_append] at hfuel
    exact h.value hws hbody (by omega) (hlater.endsNumber hws')
  · rw [skipSpace_append hws', hlater.skipSpace_eq]

theorem items_complete {js : List Json} {inner : Bytes} (h : Complete fuel)
    (hinner : SpelledItems js inner) (hfuel : inner.length < fuel + 1) :
    items (fuel + 1) (inner ++ 0x5D :: rest) = some (js, rest) := by
  cases hinner with
  | last hitem =>
      obtain ⟨behind, hread, hskip⟩ := spelled_complete (0x5D :: rest) h hitem
        (Nat.le_of_lt_succ hfuel) (.cons (.inr (.inl rfl)))
      simp only [items, hread, Option.bind_eq_bind, Option.bind_some, hskip]
      rfl
  | @more item others front inner hitem hothers =>
      simp only [List.length_append, List.length_cons] at hfuel
      have hread : items fuel (inner ++ 0x5D :: rest) = some (others, rest) :=
        h.items hothers (by omega)
      obtain ⟨behind, hfirst, hskip⟩ := spelled_complete (0x2C :: (inner ++ 0x5D :: rest)) h hitem
        (by omega) (.cons (.inl rfl))
      simp only [items, List.append_assoc, List.cons_append, hfirst, Option.bind_eq_bind,
        Option.bind_some, hskip, hread]
      rfl

/-- A member is read up to what may stand behind it, and then what stands there decides. -/
theorem members_of_member {m : Bytes × Json} {front later : Bytes} (h : Complete fuel)
    (hmember : SpelledMember m front) (hfuel : front.length ≤ fuel) (hlater : Stops later) :
    (later = 0x7D :: rest → members (fuel + 1) (front ++ later) = some ([m], rest)) ∧
    ∀ {bs others}, later = 0x2C :: bs → members fuel bs = some (others, rest) →
      members (fuel + 1) (front ++ later) = some (m :: others, rest) := by
  obtain ⟨hws, hname, hws', hitem⟩ := hmember
  next name item ws ws' front =>
  simp only [List.length_append, List.length_cons] at hfuel
  obtain ⟨behind, hread, hskip⟩ := spelled_complete later h hitem (by omega) hlater
  have hquote : skipSpace (ws ++ 0x22 :: (name ++ 0x22 :: (ws' ++ 0x3A :: (front ++ later)))) =
      0x22 :: (name ++ 0x22 :: (ws' ++ 0x3A :: (front ++ later))) := by
    rw [skipSpace_append hws]
    exact skipSpace_cons (by decide)
  have htext : textBody (name ++ 0x22 :: (ws' ++ 0x3A :: (front ++ later))) =
      some (name, ws' ++ 0x3A :: (front ++ later)) := textBody_complete hname
  have hcolon : skipSpace (ws' ++ 0x3A :: (front ++ later)) = 0x3A :: (front ++ later) := by
    rw [skipSpace_append hws']
    exact skipSpace_cons (by decide)
  simp only [members, List.append_assoc, List.cons_append, hquote, htext, hcolon, hread, hskip,
    Option.bind_eq_bind, Option.bind_some]
  constructor
  · rintro rfl
    rfl
  · rintro bs others rfl hothers
    simp only [hothers]
    rfl

theorem members_complete {ms : List (Bytes × Json)} {inner : Bytes} (h : Complete fuel)
    (hinner : SpelledMembers ms inner) (hfuel : inner.length < fuel + 1) :
    members (fuel + 1) (inner ++ 0x7D :: rest) = some (ms, rest) := by
  cases hinner with
  | last hmember =>
      have hstops : Stops (0x7D :: rest) := .cons (.inr (.inr rfl))
      exact (members_of_member h hmember (Nat.le_of_lt_succ hfuel) hstops).1 rfl
  | @more m others front inner hmember hothers =>
      simp only [List.length_append, List.length_cons] at hfuel
      have hread : members fuel (inner ++ 0x7D :: rest) = some (others, rest) :=
        h.members hothers (by omega)
      have hstops : Stops (0x2C :: (inner ++ 0x7D :: rest)) := .cons (.inl rfl)
      rw [List.append_assoc, List.cons_append]
      exact (members_of_member h hmember (by omega) hstops).2 rfl hread

theorem complete (fuel : Nat) : Complete fuel := by
  induction fuel with
  | zero =>
      refine ⟨?_, nofun, nofun⟩
      intro json ws body rest _ hbody hfuel _
      exact absurd (List.eq_nil_of_length_eq_zero (Nat.le_zero.mp hfuel)) hbody.ne_nil
  | succ fuel ih => exact ⟨value_complete ih, items_complete ih, members_complete ih⟩

/-- A body is read as the value that it spells, and refused if it spells none. -/
theorem parse_eq_some_iff : parse bs = some json ↔ Spelled json bs := by
  simp only [parse, Option.bind_eq_bind, Option.bind_eq_some_iff]
  constructor
  · rintro ⟨⟨_, behind⟩, hvalue, hempty⟩
    split at hempty
    · next hskip =>
        cases hempty
        obtain ⟨front, hfront, rfl⟩ :=
          spelled_sound (sound _) hvalue (List.isEmpty_iff.mp hskip)
        rwa [List.append_nil]
    · cases hempty
  · intro h
    obtain ⟨behind, hread, hskip⟩ := spelled_complete [] (complete (bs.length + 1)) h
      (Nat.le_succ _) nofun
    rw [List.append_nil] at hread
    exact ⟨_, hread, by rw [hskip]; rfl⟩

end WorkloadIdentity.Json

import Mathlib.Data.List.Forall2
import WorkloadIdentity.Failure
import WorkloadIdentity.Proofs.Json.Reader

/-!
What a refusal says of the body it came with. `Explains` is the form of a body that gives reasons,
stated on the spelling of the body: which members it has, in any order and among any others, and
what they say. `Rejected` lists what keeps a body from being of that form. Every body is of one of
the two kinds, and the reader of refusals tells them apart.
-/

namespace WorkloadIdentity

namespace Rejection

open Json

variable {first second name : String} {json value : Json} {values firsts seconds : List Json}
  {members : List (Bytes × Json)} {named : List (String × Json)} {text? : Option String}
  {body : Bytes}

/-! ### Records -/

/-- The members of an object with their names as texts. -/
def Named (members : List (Bytes × Json)) (named : List (String × Json)) : Prop :=
  List.Forall₂ (fun m d => SpelledText d.1.toList m.1 ∧ d.2 = m.2) members named

/-- The values that stand under a name. -/
def under (name : String) (named : List (String × Json)) : List Json :=
  (named.filter (·.1 == name)).map (·.2)

/-- The values that a record has in its two fields: an object has them under their names, wherever
they stand and however often, and an array has them in its places. -/
inductive Gives (first second : String) : Json → List Json → List Json → Prop where
  | object {members : List (Bytes × Json)} {named : List (String × Json)}
      (hnamed : Named members named) :
      Gives first second (.object members) (under first named) (under second named)
  | array {items : List Json} (hlength : items.length ≤ 2) :
      Gives first second (.array items) (items.take 1) (items.drop 1)

/-- Values that are no record: neither object nor array, an array that is too long, or an object
with a name that cannot be read. -/
inductive Misshapen : Json → Prop where
  | scalar {json : Json} (harray : ∀ items, json ≠ .array items)
      (hobject : ∀ members, json ≠ .object members) : Misshapen json
  | long {items : List Json} (hlength : 2 < items.length) : Misshapen (.array items)
  | name {members : List (Bytes × Json)} {m : Bytes × Json} (hm : m ∈ members)
      (hname : ∀ cs, ¬SpelledText cs m.1) : Misshapen (.object members)

theorem Named.exists_of_mem {m : Bytes × Json} (h : Named members named) (hm : m ∈ members) :
    ∃ cs, SpelledText cs m.1 := by
  induction h with
  | nil => cases hm
  | cons hfirst _ ih =>
      rcases List.mem_cons.mp hm with rfl | hm
      · exact ⟨_, hfirst.1⟩
      · exact ih hm

theorem Named.exists_value {d : String × Json} (h : Named members named) (hd : d ∈ named) :
    ∃ m ∈ members, d.2 = m.2 := by
  induction h with
  | nil => cases hd
  | cons hfirst _ ih =>
      rcases List.mem_cons.mp hd with rfl | hd
      · exact ⟨_, List.mem_cons_self, hfirst.2⟩
      · obtain ⟨m, hm, hvalue⟩ := ih hd
        exact ⟨m, List.mem_cons_of_mem _ hm, hvalue⟩

theorem Named.unique {named' : List (String × Json)} (h : Named members named)
    (h' : Named members named') : named = named' := by
  refine List.right_unique_forall₂' ?_ h h'
  rintro m d d' ⟨hname, hvalue⟩ ⟨hname', hvalue'⟩
  exact Prod.ext (String.toList_inj.mp (hname.unique hname')) (hvalue.trans hvalue'.symm)

theorem exists_named (h : ∀ m ∈ members, ∃ cs, SpelledText cs m.1) :
    ∃ named, Named members named := by
  induction members with
  | nil => exact ⟨[], .nil⟩
  | cons m members ih =>
      obtain ⟨cs, hcs⟩ := h m List.mem_cons_self
      obtain ⟨named, hnamed⟩ := ih fun x hx => h x (List.mem_cons_of_mem _ hx)
      refine ⟨(String.ofList cs, m.2) :: named, .cons ⟨?_, rfl⟩ hnamed⟩
      rwa [String.toList_ofList]

theorem Gives.unique {firsts' seconds' : List Json} (h : Gives first second json firsts seconds)
    (h' : Gives first second json firsts' seconds') : firsts = firsts' ∧ seconds = seconds' := by
  cases h with
  | object hnamed =>
      cases h' with
      | object hnamed' =>
          rw [hnamed.unique hnamed']
          exact ⟨rfl, rfl⟩
  | array _ =>
      cases h'
      exact ⟨rfl, rfl⟩

/-- A value is a record or misshapen, and not both. -/
theorem misshapen_iff :
    Misshapen json ↔ ¬∃ firsts seconds, Gives first second json firsts seconds := by
  constructor
  · rintro h ⟨firsts, seconds, hgives⟩
    cases h with
    | scalar harray hobject =>
        cases hgives with
        | object => exact hobject _ rfl
        | array => exact harray _ rfl
    | long hlength =>
        cases hgives with
        | array hshort => exact absurd hlength (Nat.not_lt.mpr hshort)
    | name hm hname =>
        cases hgives with
        | object hnamed =>
            obtain ⟨cs, hcs⟩ := hnamed.exists_of_mem hm
            exact hname cs hcs
  · intro h
    cases json with
    | array items =>
        exact .long (Nat.lt_of_not_le fun hlength => h ⟨_, _, .array hlength⟩)
    | object members =>
        rcases Classical.em (∀ m ∈ members, ∃ cs, SpelledText cs m.1) with hread | hunread
        · obtain ⟨named, hnamed⟩ := exists_named hread
          exact absurd ⟨_, _, .object hnamed⟩ h
        · simp only [not_forall, not_exists] at hunread
          obtain ⟨m, hm, hname⟩ := hunread
          exact .name hm hname
    | null => exact .scalar nofun nofun
    | bool _ => exact .scalar nofun nofun
    | number _ => exact .scalar nofun nofun
    | text _ => exact .scalar nofun nofun

/-- The name of a member as a text, if it is one, with the value. -/
def named? (m : Bytes × Json) : Option (String × Json) := (readText? m.1).map (·, m.2)

theorem mapM_named?_eq_some_iff (h : ∀ m ∈ members, IsTextBody m.1) :
    members.mapM named? = some named ↔ Named members named := by
  induction members generalizing named with
  | nil =>
      rw [List.mapM_nil, Named, List.forall₂_nil_left_iff]
      exact Option.some_inj.trans eq_comm
  | cons m members ih =>
      have hothers {named : List (String × Json)} :
          members.mapM named? = some named ↔ Named members named :=
        ih fun x hx => h x (List.mem_cons_of_mem _ hx)
      have htext {text : String} : readText? m.1 = some text ↔ SpelledText text.toList m.1 :=
        readText?_eq_some_iff (h m List.mem_cons_self)
      simp only [List.mapM_cons, Option.bind_eq_bind, Option.bind_eq_some_iff, Option.pure_def,
        hothers, named?, Option.map_eq_some_iff, htext, Option.some.injEq]
      constructor
      · rintro ⟨_, ⟨text, htext, rfl⟩, others, hnamed, rfl⟩
        exact .cons ⟨htext, rfl⟩ hnamed
      · rintro (_ | ⟨⟨htext, hvalue⟩, hnamed⟩)
        exact ⟨_, ⟨_, htext, rfl⟩, _, hnamed, by rw [← hvalue]⟩

theorem field_eq_some_iff {value? : Option Json} :
    (match named.filter (·.1 == name) with
      | [] => some none
      | [(_, value)] => some (some value)
      | _ => none) = some value? ↔
      (under name named).length ≤ 1 ∧ value? = (under name named).head? := by
  unfold under
  split
  · next h => simp [h, eq_comm]
  · next h => simp [h, eq_comm]
  · next hnone hone =>
      refine iff_of_false nofun ?_
      rintro ⟨hlength, _⟩
      rw [List.length_map] at hlength
      match hfields : named.filter (·.1 == name) with
      | [] => exact hnone hfields
      | [d] => exact hone _ _ hfields
      | _ :: _ :: _ => simp [hfields] at hlength

theorem fields?_object : fields? [first, second] (.object members) =
    (members.mapM named?).bind fun named => [first, second].mapM fun name =>
      match named.filter (·.1 == name) with
      | [] => some none
      | [(_, value)] => some (some value)
      | _ => none := by
  have hnamed :
      (fun m : Bytes × Json => (readText? m.1).bind fun text => some (text, m.2)) = named? := by
    funext m
    cases hread : readText? m.1
    all_goals simp [named?, hread]
  rw [← hnamed]
  rfl

theorem fields?_array {items : List Json} : fields? [first, second] (.array items) =
    if items.length ≤ 2 then some [(items.take 1).head?, (items.drop 1).head?] else none := by
  match items with
  | [] => rfl
  | [_] => rfl
  | [_, _] => rfl
  | _ :: _ :: _ :: others => simp [fields?]

/-- The fields of a record are read if neither is given twice. -/
theorem fields?_eq_some_iff {values? : List (Option Json)} (hjson : IsSpelled json) :
    fields? [first, second] json = some values? ↔
      ∃ firsts seconds, Gives first second json firsts seconds ∧ firsts.length ≤ 1 ∧
        seconds.length ≤ 1 ∧ values? = [firsts.head?, seconds.head?] := by
  cases json with
  | object members =>
      have hnames : ∀ m ∈ members, IsTextBody m.1 := fun m hm => (hjson.member m hm).1
      simp only [fields?_object, Option.bind_eq_some_iff, mapM_named?_eq_some_iff hnames,
        List.mapM_cons, List.mapM_nil, Option.bind_eq_bind, field_eq_some_iff, Option.pure_def,
        Option.some.injEq]
      constructor
      · rintro ⟨named, hnamed, _, ⟨hfirst, rfl⟩, _, ⟨_, ⟨hsecond, rfl⟩, _, rfl, rfl⟩, rfl⟩
        exact ⟨_, _, .object hnamed, hfirst, hsecond, rfl⟩
      · rintro ⟨_, _, ⟨hnamed⟩, hfirst, hsecond, rfl⟩
        exact ⟨_, hnamed, _, ⟨hfirst, rfl⟩, _, ⟨_, ⟨hsecond, rfl⟩, _, rfl, rfl⟩, rfl⟩
  | array items =>
      rw [fields?_array]
      constructor
      · intro h
        split at h
        · next hlength =>
            have hsecond : (items.drop 1).length ≤ 1 := by
              rw [List.length_drop]
              omega
            exact ⟨_, _, .array hlength, List.length_take_le 1 items, hsecond,
              (Option.some.inj h).symm⟩
        · cases h
      · rintro ⟨_, _, hgives, _, _, rfl⟩
        cases hgives with
        | array hlength => rw [if_pos hlength]
  | null => exact iff_of_false nofun nofun
  | bool _ => exact iff_of_false nofun nofun
  | number _ => exact iff_of_false nofun nofun
  | text _ => exact iff_of_false nofun nofun

theorem Gives.isSpelled (hjson : IsSpelled json) (h : Gives first second json firsts seconds) :
    (∀ v ∈ firsts, IsSpelled v) ∧ ∀ v ∈ seconds, IsSpelled v := by
  cases h with
  | @object members named hnamed =>
      have hvalue {name : String} : ∀ v ∈ under name named, IsSpelled v := by
        intro v hv
        obtain ⟨d, hd, rfl⟩ := List.mem_map.mp hv
        obtain ⟨m, hm, hvalue⟩ := hnamed.exists_value (List.mem_of_mem_filter hd)
        rw [hvalue]
        exact (hjson.member m hm).2
      exact ⟨hvalue, hvalue⟩
  | array _ =>
      exact ⟨fun v hv => hjson.item v (List.mem_of_mem_take hv),
        fun v hv => hjson.item v (List.mem_of_mem_drop hv)⟩

/-! ### Texts -/

/-- What the values under a name say: nothing if there is none or if it is null, and a text if it
is one. -/
inductive Says : List Json → Option String → Prop where
  | absent : Says [] none
  | null : Says [.null] none
  | text {raw : Bytes} {text : String} (htext : SpelledText text.toList raw) :
      Says [.text raw] (some text)

/-- What cannot be read as a text: several values, one that is neither text nor null, or a text that
spells no characters. -/
inductive Unsaid : List Json → Prop where
  | repeated {values : List Json} (hlength : 1 < values.length) : Unsaid values
  | mistyped {json : Json} (hnull : json ≠ .null) (htext : ∀ raw, json ≠ .text raw) : Unsaid [json]
  | unreadable {raw : Bytes} (hraw : ∀ cs, ¬SpelledText cs raw) : Unsaid [.text raw]

theorem unsaid_iff : Unsaid values ↔ ¬∃ text?, Says values text? := by
  constructor
  · rintro h ⟨text?, hsays⟩
    cases h with
    | repeated hlength => cases hsays <;> simp at hlength
    | mistyped hnull htext =>
        cases hsays with
        | null => exact hnull rfl
        | text _ => exact htext _ rfl
    | unreadable hraw =>
        cases hsays with
        | text htext => exact hraw _ htext
  · intro h
    match values with
    | [] => exact absurd ⟨none, .absent⟩ h
    | _ :: _ :: _ => exact .repeated (by simp)
    | [json] =>
        cases json with
        | null => exact absurd ⟨none, .null⟩ h
        | text raw =>
            refine .unreadable fun cs hcs => h ⟨some (String.ofList cs), .text ?_⟩
            rwa [String.toList_ofList]
        | bool _ => exact .mistyped nofun nofun
        | number _ => exact .mistyped nofun nofun
        | array _ => exact .mistyped nofun nofun
        | object _ => exact .mistyped nofun nofun

theorem optionalText?_eq_some_iff (hvalues : ∀ v ∈ values, IsSpelled v) :
    (values.length ≤ 1 ∧ optionalText? values.head? = some text?) ↔ Says values text? := by
  constructor
  · rintro ⟨hlength, h⟩
    match values with
    | [] =>
        cases h
        exact .absent
    | _ :: _ :: _ => simp at hlength
    | [json] =>
        have hjson := hvalues json List.mem_cons_self
        cases json with
        | null =>
            cases h
            exact .null
        | text raw =>
            obtain ⟨text, htext, rfl⟩ := Option.map_eq_some_iff.mp h
            exact .text ((readText?_eq_some_iff hjson.text).mp htext)
        | _ => cases h
  · intro h
    cases h with
    | absent => exact ⟨Nat.zero_le _, rfl⟩
    | null => exact ⟨Nat.le_refl _, rfl⟩
    | text htext =>
        exact ⟨Nat.le_refl _, Option.map_eq_some_iff.mpr
          ⟨_, (readText?_eq_some_iff htext.isTextBody).mpr htext, rfl⟩⟩

/-! ### Errors -/

/-- What the values under the name of the error say: a record of a message and a code. -/
inductive Details : List Json → Option String → Option String → Prop where
  | absent : Details [] none none
  | null : Details [.null] none none
  | record {json : Json} {messages codes : List Json} {message code : Option String}
      (hgives : Gives "message" "code" json messages codes) (hmessage : Says messages message)
      (hcode : Says codes code) : Details [json] message code

/-- What cannot be read as such a record. -/
inductive Undetailed : List Json → Prop where
  | repeated {values : List Json} (hlength : 1 < values.length) : Undetailed values
  | misshapen {json : Json} (hnull : json ≠ .null) (hshape : Misshapen json) : Undetailed [json]
  | message {json : Json} {messages codes : List Json}
      (hgives : Gives "message" "code" json messages codes) (hmessage : Unsaid messages) :
      Undetailed [json]
  | code {json : Json} {messages codes : List Json}
      (hgives : Gives "message" "code" json messages codes) (hcode : Unsaid codes) :
      Undetailed [json]

theorem undetailed_iff : Undetailed values ↔ ¬∃ message code, Details values message code := by
  constructor
  · rintro h ⟨message, code, hdetails⟩
    cases h with
    | repeated hlength => cases hdetails <;> simp at hlength
    | misshapen hnull hshape =>
        cases hdetails with
        | null => exact hnull rfl
        | record hgives _ _ => exact misshapen_iff.mp hshape ⟨_, _, hgives⟩
    | message hgives hmessage =>
        cases hdetails with
        | null => cases hgives
        | record hgives' hsays _ =>
            rw [(hgives.unique hgives').1] at hmessage
            exact unsaid_iff.mp hmessage ⟨_, hsays⟩
    | code hgives hcode =>
        cases hdetails with
        | null => cases hgives
        | record hgives' _ hsays =>
            rw [(hgives.unique hgives').2] at hcode
            exact unsaid_iff.mp hcode ⟨_, hsays⟩
  · intro h
    match values with
    | [] => exact absurd ⟨none, none, .absent⟩ h
    | _ :: _ :: _ => exact .repeated (by simp)
    | [json] =>
        have hnull : json ≠ .null := by
          rintro rfl
          exact h ⟨none, none, .null⟩
        rcases Classical.em (∃ messages codes, Gives "message" "code" json messages codes) with
          ⟨messages, codes, hgives⟩ | hshape
        · rcases Classical.em (∃ message, Says messages message) with ⟨message, hmessage⟩ | hunsaid
          · rcases Classical.em (∃ code, Says codes code) with ⟨code, hcode⟩ | hunsaid
            · exact absurd ⟨message, code, .record hgives hmessage hcode⟩ h
            · exact .code hgives (unsaid_iff.mpr hunsaid)
          · exact .message hgives (unsaid_iff.mpr hunsaid)
        · exact .misshapen hnull (misshapen_iff.mpr hshape)

theorem detail?_record {message code : Option String} (hjson : IsSpelled json)
    (hnull : json ≠ .null) :
    detail? (some json) = some (message, code) ↔
      ∃ messages codes, Gives "message" "code" json messages codes ∧ Says messages message ∧
        Says codes code := by
  rw [detail?.eq_3 json hnull]
  simp only [Option.bind_eq_bind, Option.bind_eq_some_iff, fields?_eq_some_iff hjson]
  constructor
  · rintro ⟨_, ⟨messages, codes, hgives, hmessages, hcodes, rfl⟩, h⟩
    simp only [Option.bind_eq_some_iff, Option.pure_def, Option.some.injEq, Prod.mk.injEq] at h
    obtain ⟨_, hmessage, _, hcode, rfl, rfl⟩ := h
    obtain ⟨hspelled, hspelled'⟩ := hgives.isSpelled hjson
    exact ⟨messages, codes, hgives, (optionalText?_eq_some_iff hspelled).mp ⟨hmessages, hmessage⟩,
      (optionalText?_eq_some_iff hspelled').mp ⟨hcodes, hcode⟩⟩
  · rintro ⟨messages, codes, hgives, hmessage, hcode⟩
    obtain ⟨hspelled, hspelled'⟩ := hgives.isSpelled hjson
    obtain ⟨hmessages, hmessage⟩ := (optionalText?_eq_some_iff hspelled).mpr hmessage
    obtain ⟨hcodes, hcode⟩ := (optionalText?_eq_some_iff hspelled').mpr hcode
    refine ⟨_, ⟨messages, codes, hgives, hmessages, hcodes, rfl⟩, ?_⟩
    simp only [hmessage, hcode]
    rfl

theorem detail?_eq_some_iff {message code : Option String} (hvalues : ∀ v ∈ values, IsSpelled v) :
    (values.length ≤ 1 ∧ detail? values.head? = some (message, code)) ↔
      Details values message code := by
  match values with
  | [] =>
      constructor
      · rintro ⟨_, ⟨⟩⟩
        exact .absent
      · rintro ⟨⟩
        exact ⟨Nat.zero_le _, rfl⟩
  | _ :: _ :: _ =>
      refine iff_of_false ?_ nofun
      rintro ⟨hlength, _⟩
      simp at hlength
  | [json] =>
      have hjson := hvalues json List.mem_cons_self
      constructor
      · rintro ⟨_, h⟩
        rcases Classical.em (json = .null) with rfl | hnull
        · cases h
          exact .null
        · obtain ⟨messages, codes, hgives, hmessage, hcode⟩ := (detail?_record hjson hnull).mp h
          exact .record hgives hmessage hcode
      · intro h
        cases h with
        | null => exact ⟨Nat.le_refl _, rfl⟩
        | record hgives hmessage hcode =>
            have hnull : json ≠ .null := by
              rintro rfl
              cases hgives
            exact ⟨Nat.le_refl _, (detail?_record hjson hnull).mpr ⟨_, _, hgives, hmessage, hcode⟩⟩

/-! ### Bodies -/

/-- A body that gives reasons: a record of a code and an error, the error a record of a message and
an inner code. Of its other members only the names are read, so they may hold any values, however
deep these nest. -/
inductive Explains (body : Bytes) (code message inner : Option String) : Prop where
  | mk {json : Json} {codes errors : List Json} (hbody : Spelled json body)
      (hgives : Gives "code" "error" json codes errors) (hcode : Says codes code)
      (herror : Details errors message inner)

/-- The ways in which a body gives no reasons: it is no JSON, no record, or its code or its error
cannot be read. -/
inductive Rejected (body : Bytes) : Prop where
  | notJson (h : ∀ json, ¬Spelled json body)
  | misshapen {json : Json} (hbody : Spelled json body) (hshape : Misshapen json)
  | code {json : Json} {codes errors : List Json} (hbody : Spelled json body)
      (hgives : Gives "code" "error" json codes errors) (hcode : Unsaid codes)
  | error {json : Json} {codes errors : List Json} (hbody : Spelled json body)
      (hgives : Gives "code" "error" json codes errors) (herror : Undetailed errors)

/-- A body is read exactly if it gives reasons, and then the inner code goes before the outer. -/
theorem body?_eq_some_iff {message reason : Option String} :
    body? body = some (message, reason) ↔
      ∃ code inner, Explains body code message inner ∧ reason = (inner <|> code) := by
  constructor
  · intro h
    simp only [body?, Option.bind_eq_bind, Option.bind_eq_some_iff] at h
    obtain ⟨json, hparse, values?, hfields, h⟩ := h
    have hbody := parse_eq_some_iff.mp hparse
    obtain ⟨codes, errors, hgives, hcodes, herrors, rfl⟩ :=
      (fields?_eq_some_iff ⟨body, hbody⟩).mp hfields
    simp only [Option.bind_eq_some_iff, Option.pure_def, Option.some.injEq, Prod.mk.injEq] at h
    obtain ⟨code, hcode, ⟨_, inner⟩, herror, rfl, rfl⟩ := h
    obtain ⟨hspelled, hspelled'⟩ := hgives.isSpelled ⟨body, hbody⟩
    exact ⟨code, inner, .mk hbody hgives
      ((optionalText?_eq_some_iff hspelled).mp ⟨hcodes, hcode⟩)
      ((detail?_eq_some_iff hspelled').mp ⟨herrors, herror⟩), rfl⟩
  · rintro ⟨code, inner, ⟨hbody, hgives, hcode, herror⟩, rfl⟩
    obtain ⟨hspelled, hspelled'⟩ := hgives.isSpelled ⟨body, hbody⟩
    obtain ⟨hcodes, hcode⟩ := (optionalText?_eq_some_iff hspelled).mpr hcode
    obtain ⟨herrors, herror⟩ := (detail?_eq_some_iff hspelled').mpr herror
    have hfields := (fields?_eq_some_iff ⟨body, hbody⟩).mpr
      ⟨_, _, hgives, hcodes, herrors, rfl⟩
    simp only [body?, parse_eq_some_iff.mpr hbody, hfields, hcode, herror, Option.bind_eq_bind,
      Option.bind_some]
    rfl

theorem rejected_iff :
    Rejected body ↔ ¬∃ code message inner, Explains body code message inner := by
  constructor
  · rintro h ⟨code, message, inner, hbody, hgives, hcode, herror⟩
    have hsame {json : Json} (hbody' : Spelled json body) := Option.some.inj
      ((parse_eq_some_iff.mpr hbody).symm.trans (parse_eq_some_iff.mpr hbody'))
    cases h with
    | notJson hnone => exact hnone _ hbody
    | misshapen hbody' hshape =>
        rw [← hsame hbody'] at hshape
        exact misshapen_iff.mp hshape ⟨_, _, hgives⟩
    | code hbody' hgives' hunsaid =>
        rw [← hsame hbody'] at hgives'
        rw [(hgives'.unique hgives).1] at hunsaid
        exact unsaid_iff.mp hunsaid ⟨_, hcode⟩
    | error hbody' hgives' hundetailed =>
        rw [← hsame hbody'] at hgives'
        rw [(hgives'.unique hgives).2] at hundetailed
        exact undetailed_iff.mp hundetailed ⟨_, _, herror⟩
  · intro h
    rcases Classical.em (∃ json, Spelled json body) with ⟨json, hbody⟩ | hnone
    · rcases Classical.em (∃ codes errors, Gives "code" "error" json codes errors) with
        ⟨codes, errors, hgives⟩ | hshape
      · rcases Classical.em (∃ code, Says codes code) with ⟨code, hcode⟩ | hunsaid
        · refine .error hbody hgives (undetailed_iff.mpr ?_)
          rintro ⟨message, inner, herror⟩
          exact h ⟨code, message, inner, .mk hbody hgives hcode herror⟩
        · exact .code hbody hgives (unsaid_iff.mpr hunsaid)
      · exact .misshapen hbody (misshapen_iff.mpr hshape)
    · exact .notJson fun json hbody => hnone ⟨json, hbody⟩

theorem body?_eq_none_iff : body? body = none ↔ Rejected body := by
  rw [rejected_iff]
  constructor
  · rintro h ⟨code, message, inner, hexplains⟩
    rw [body?_eq_some_iff.mpr ⟨code, inner, hexplains, rfl⟩] at h
    cases h
  · intro h
    cases hread : body? body with
    | none => rfl
    | some said =>
        obtain ⟨code, inner, hexplains, _⟩ := body?_eq_some_iff.mp hread
        exact absurd ⟨code, _, inner, hexplains⟩ h

/-- What a refusal says follows its body, and its status is the one it came with. If the body gives
reasons, the message is the body's, or words for the status where it has none, and the reason is the
inner code, or the outer one where there is no inner one; the certificate counts as expired for just
one reason. The reader refuses the bodies that give no reasons and no others, and of such a body the
text is kept. -/
theorem ofResponse_follows_body (status : Nat) (body : Bytes) :
    (∀ code message inner, Explains body code message inner →
      ofResponse status body = ⟨status, message.getD (fallback status), inner <|> code⟩ ∧
      ((Failure.rejected (ofResponse status body)).isCertificateExpired = true ↔
        (inner <|> code) = some "cert_expired")) ∧
    (body? body = none ↔ Rejected body) ∧
    (Rejected body →
      ofResponse status body =
        let text := Text.trimmed (Utf8.toStringLossy body)
        ⟨status, if text = "" then fallback status else text, none⟩) := by
  refine ⟨?_, body?_eq_none_iff, ?_⟩
  · intro code message inner h
    have hread := body?_eq_some_iff.mpr ⟨code, inner, h, rfl⟩
    have hresponse : ofResponse status body =
        ⟨status, message.getD (fallback status), inner <|> code⟩ := by
      simp only [ofResponse, hread]
    refine ⟨hresponse, ?_⟩
    rw [hresponse]
    exact beq_iff_eq
  · intro h
    simp only [ofResponse, body?_eq_none_iff.mpr h]

namespace Sample

/-- A body with escapes, with blanks, and with members that are passed over. One of those holds a
surrogate that stands for no character. -/
def expired : Bytes := Utf8.ofString <|
  "\x7b \"other\": [1.5e3, \x7b\"a\": \"\\ud800\"\x7d],\n \"code\": \"unauthorized\", " ++
  "\"error\": \x7b\"message\": null, \"c\\u006fde\": \"cert\\u005fexpired\"\x7d \x7d"

/-- A body that gives its code twice. -/
def repeated : Bytes := Utf8.ofString
  " \x7b\"code\": \"cert_expired\", \"code\": null\x7d\n"

end Sample

open Sample in
theorem ofResponse_follows_body_expired :
    (∃ code inner, Explains expired code none inner ∧ (inner <|> code) = some "cert_expired") ∧
    ofResponse 401 expired = ⟨401, "broker returned status 401", some "cert_expired"⟩ ∧
    (Failure.rejected (ofResponse 401 expired)).isCertificateExpired = true ∧
    Rejected repeated ∧
    ofResponse 500 repeated =
      ⟨500, "\x7b\"code\": \"cert_expired\", \"code\": null\x7d", none⟩ := by
  have hread : body? expired = some (none, some "cert_expired") := by decide +kernel
  obtain ⟨code, inner, hexplains, hreason⟩ := body?_eq_some_iff.mp hread
  obtain ⟨hresponse, hrecovery⟩ :=
    (ofResponse_follows_body 401 expired).1 code none inner hexplains
  have hrejected : Rejected repeated :=
    (ofResponse_follows_body 500 repeated).2.1.mp (by decide +kernel)
  refine ⟨⟨code, inner, hexplains, hreason.symm⟩, ?_, hrecovery.mpr hreason.symm, hrejected, ?_⟩
  · rw [hresponse, ← hreason]
    decide +kernel
  · rw [(ofResponse_follows_body 500 repeated).2.2 hrejected]
    decide +kernel

end Rejection

end WorkloadIdentity

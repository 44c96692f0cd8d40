import WorkloadIdentity.Proofs.Settings.Paths
import WorkloadIdentity.Proofs.Url.Segments
import WorkloadIdentity.Settings.Environment

/-!
What variables give for a path. A variable says something of the path that it names, of the paths
below that one if its value is a record, and of those above it, where it makes a record; it says
nothing of any other. Of several variables for one path the later are put over the earlier.
-/

namespace WorkloadIdentity.Environment

variable {path other : List String} {value found : Value} {name raw : String}
  {vars : List (String × String)}

/-! ### Under names -/

theorem nest_cons (name : String) (path : List String) (value : Value) :
    nest (name :: path) value = .record [(name, nest path value)] := rfl

theorem find?_nest_self : (nest path value).find? path = some value := by
  induction path with
  | nil => exact Value.find?_nil
  | cons name path ih =>
      rw [nest_cons, Value.find?_cons, Fields.get?_cons_self, Option.bind_some, ih]

/-- Nothing is seen under another path. -/
theorem find?_nest_of_apart (hbelow : ¬other <+: path) (habove : ¬path <+: other) :
    (nest other value).find? path = none := by
  induction other generalizing path with
  | nil => exact absurd List.nil_prefix hbelow
  | cons first other ih =>
      cases path with
      | nil => exact absurd List.nil_prefix habove
      | cons name path =>
          rw [nest_cons, Value.find?_cons]
          by_cases hname : first = name
          · subst hname
            rw [Fields.get?_cons_self, Option.bind_some]
            rw [List.cons_prefix_cons] at hbelow habove
            exact ih (fun h => hbelow ⟨rfl, h⟩) fun h => habove ⟨rfl, h⟩
          · rw [Fields.get?_cons_ne hname]
            rfl

theorem leads_nest (h : ∀ rest, path = other ++ rest → value.Leads rest) :
    (nest other value).Leads path := by
  induction other generalizing path with
  | nil => exact h path rfl
  | cons first other ih =>
      cases path with
      | nil => exact Value.leads_nil
      | cons name path =>
          refine Value.leads_cons_iff.mpr ⟨_, rfl, List.pairwise_singleton _ _, ?_⟩
          intro inner hinner
          rw [Fields.get?, Option.map_eq_some_iff] at hinner
          obtain ⟨field, hfield, rfl⟩ := hinner
          obtain rfl := List.mem_singleton.mp (List.mem_of_find?_eq_some hfield)
          have hname : first = name := by simpa using List.find?_some hfield
          apply ih
          rintro rest rfl
          exact h rest (congrArg (· :: _) hname.symm)

/-! ### Values -/

theorem isRecord_wholeValue (cs : List Char) : (wholeValue cs).isRecord = false := by
  unfold wholeValue
  split
  all_goals rfl

theorem isRecord_bareValue (cs : List Char) : (bareValue cs).isRecord = false := by
  unfold bareValue
  dsimp only
  split
  · split
    · rfl
    · exact isRecord_wholeValue _
  · exact isRecord_wholeValue _

/-- A record that a variable spells has its form. -/
theorem sorted_of_value {fuel : Nat} {cs rest : List Char} {fields : Fields}
    (h : Environment.value fuel cs = some (.record fields, rest)) : Fields.Sorted fields := by
  cases fuel with
  | zero => cases h
  | succ fuel =>
      rw [Environment.value] at h
      dsimp only at h
      split at h
      · cases h
      · cases h
      · split at h
        · obtain ⟨⟨_, _⟩, hfound, ⟨⟩⟩ := Option.bind_eq_some_iff.mp h
          obtain ⟨pairs, _, hpairs⟩ := Option.map_eq_some_iff.mp hfound
          cases hpairs
          exact Fields.sorted_ofList _
        · obtain ⟨⟨_, _⟩, hfound, ⟨⟩⟩ := Option.bind_eq_some_iff.mp h
          obtain ⟨_, _, hitems⟩ := Option.map_eq_some_iff.mp hfound
          cases hitems
        · obtain ⟨⟨_, _⟩, hfound, ⟨⟩⟩ := Option.bind_eq_some_iff.mp h
          obtain ⟨_, _, htext⟩ := Option.map_eq_some_iff.mp hfound
          cases htext
        · cases h
        · cases h
        · obtain ⟨⟨_, _⟩, hbare, ⟨⟩⟩ := Option.bind_eq_some_iff.mp h
          have hrecord := isRecord_bareValue ((skipSpace cs).takeWhile isTextChar)
          rw [(Prod.mk.inj (Option.some.inj hbare)).1] at hrecord
          cases hrecord

theorem sorted_of_parse {fields : Fields} (h : parse raw = .record fields) :
    Fields.Sorted fields := by
  unfold parse at h
  dsimp only at h
  split at h
  · next hvalue =>
      subst h
      exact sorted_of_value hvalue
  · cases h

/-! ### Names -/

theorem path?_ne_nil (h : path? name = some path) : path ≠ [] := by
  unfold path? at h
  dsimp only at h
  split at h
  · split at h
    · cases h
      exact fun hnil => Text.splitBy_ne_nil _ _ (List.map_eq_nil_iff.mp hnil)
    · cases h
  · cases h

/-! ### Variables -/

/-- Whether a variable says anything of a path: it names the path, or one above or below it. -/
def concerns (path : List String) (var : String × String) : Bool :=
  (path? var.1).any fun named => named.isPrefixOf path || path.isPrefixOf named

/-- What a single variable gives for a path. -/
def given? (path : List String) (var : String × String) : Option Value :=
  (path? var.1).bind fun named => (nest named (parse var.2)).find? path

/-- A variable that is for something above the path has a record for it. -/
def Passes (path : List String) (var : String × String) : Prop :=
  ∀ named, path? var.1 = some named → ∀ first rest, path = named ++ first :: rest →
    (parse var.2).Leads (first :: rest)

theorem given?_self (h : path? name = some path) : given? path (name, raw) = some (parse raw) := by
  rw [given?, h]
  exact find?_nest_self

theorem concerns_iff {var : String × String} : concerns path var = true ↔
    ∃ named, path? var.1 = some named ∧ (named <+: path ∨ path <+: named) := by
  rw [concerns]
  cases path? var.1 with
  | none => simp
  | some named => simp [List.isPrefixOf_iff_prefix]

theorem given?_of_not_concerns {var : String × String} (h : ¬concerns path var = true) :
    given? path var = none := by
  rw [concerns_iff] at h
  rw [given?, Option.bind_eq_none_iff]
  intro named hnamed
  exact find?_nest_of_apart (fun hbelow => h ⟨named, hnamed, Or.inl hbelow⟩)
    fun habove => h ⟨named, hnamed, Or.inr habove⟩

/-- Puts what a variable gives over what has been found. -/
def put (found : Value) (var : String × String) : Value :=
  match path? var.1 with
  | some named => found.overlay (nest named (parse var.2))
  | none => found

theorem read_eq (vars : List (String × String)) : read vars = vars.foldl put (.record []) := rfl

theorem leads_of_passes {var : String × String} (h : Passes path var) {named : List String}
    (hnamed : path? var.1 = some named) : (nest named (parse var.2)).Leads path := by
  apply leads_nest
  intro rest hrest
  cases rest with
  | nil => exact Value.leads_nil
  | cons first rest => exact h named hnamed first rest hrest

theorem find?_put {var : String × String} (h : Passes path var) :
    (put found var).find? path =
      Option.merge Value.overlay (found.find? path) (given? path var) := by
  unfold put given?
  cases hnamed : path? var.1 with
  | none => exact Option.merge_none_right.symm
  | some named => exact Value.find?_overlay (leads_of_passes h hnamed)

theorem leads_put {var : String × String} (h : Passes path var) (hfound : found.Leads path) :
    (put found var).Leads path := by
  unfold put
  split
  · next hnamed => exact Value.leads_overlay hfound (leads_of_passes h hnamed)
  · exact hfound

theorem leads_foldl (h : ∀ var ∈ vars, Passes path var) (hfound : found.Leads path) :
    (vars.foldl put found).Leads path := by
  induction vars generalizing found with
  | nil => exact hfound
  | cons var vars ih =>
      obtain ⟨hvar, hrest⟩ := List.forall_mem_cons.mp h
      exact ih hrest (leads_put hvar hfound)

theorem leads_read (h : ∀ var ∈ vars, Passes path var) : (read vars).Leads path := by
  apply leads_foldl h
  cases path with
  | nil => trivial
  | cons _ _ => exact ⟨List.Pairwise.nil, nofun⟩

/-- Each variable that concerns a path is put over what those before it give. -/
theorem find?_foldl (h : ∀ var ∈ vars, Passes path var) :
    (vars.foldl put found).find? path =
      ((vars.filter (concerns path)).map (given? path)).foldl (Option.merge Value.overlay)
        (found.find? path) := by
  induction vars generalizing found with
  | nil => rfl
  | cons var vars ih =>
      obtain ⟨hvar, hrest⟩ := List.forall_mem_cons.mp h
      rw [List.foldl_cons, ih hrest, find?_put hvar]
      by_cases hconcerns : concerns path var = true
      · rw [List.filter_cons_of_pos hconcerns, List.map_cons, List.foldl_cons]
      · rw [List.filter_cons_of_neg hconcerns, given?_of_not_concerns hconcerns,
          Option.merge_none_right]

theorem find?_read (hpath : path ≠ []) (h : ∀ var ∈ vars, Passes path var) :
    (read vars).find? path = ((vars.filter (concerns path)).map (given? path)).foldl
      (Option.merge Value.overlay) none := by
  have hstart : (Value.record []).find? path = none := by
    cases path with
    | nil => exact absurd rfl hpath
    | cons _ _ => rfl
  rw [read_eq, find?_foldl h, hstart]

/-- A variable for a path that no other one concerns gives its value. -/
theorem find?_read_of_single (hpath : path? name = some path) (h : ∀ var ∈ vars, Passes path var)
    (hsingle : vars.filter (concerns path) = [(name, raw)]) :
    (read vars).find? path = some (parse raw) := by
  rw [find?_read (path?_ne_nil hpath) h, hsingle, List.map_singleton, given?_self hpath,
    List.foldl_cons, Option.merge_none_left, List.foldl_nil]

end WorkloadIdentity.Environment

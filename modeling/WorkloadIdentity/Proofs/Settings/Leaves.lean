import WorkloadIdentity.Proofs.Settings.Environment
import WorkloadIdentity.Proofs.Settings.Written
import WorkloadIdentity.Proofs.Yaml
import WorkloadIdentity.Settings.Layers

/-!
The configuration leaf by leaf. Each setting that holds no others is a leaf with a path of its own.
What a leaf has depends on nothing but what the layers give for its path: the highest of those that
give anything decides, and only what that one says has to be readable.
-/

namespace WorkloadIdentity.Settings

/-- A setting that holds no others, with the names that lead to it. -/
structure Leaf where
  Held : Type
  path : List String
  reader : Reader Held
  get : Settings → Held

namespace Leaf

def ofSlot (p : Slot Settings) : Leaf := ⟨p.Held, [p.key], p.reader, p.get⟩

def ofRetrySlot (p : Slot RetrySettings) : Leaf :=
  ⟨p.Held, ["retry", p.key], p.reader, fun s => p.get s.retry⟩

/-- What a leaf has is what is given for it, or its default if nothing is. -/
def Takes (leaf : Leaf) (given : Option Value) (s : Settings) : Prop :=
  match given with
  | some value => leaf.reader .layered value = .ok (leaf.get s)
  | none => leaf.get s = leaf.get default

end Leaf

def leaves : List Leaf :=
  (slots.filter fun p => p.key ≠ "retry").map .ofSlot ++ RetrySettings.slots.map .ofRetrySlot

theorem forall_leaves_iff {P : Leaf → Prop} : (∀ leaf ∈ leaves, P leaf) ↔
    (∀ p ∈ slots, p.key ≠ retrySlot.key → P (.ofSlot p)) ∧
      ∀ p ∈ RetrySettings.slots, P (.ofRetrySlot p) := by
  simp only [leaves, List.forall_mem_append, List.forall_mem_map, List.mem_filter,
    decide_eq_true_eq, and_imp]
  exact Iff.rfl

theorem retrySlot_mem : retrySlot ∈ slots := by simp [slots]

/-! ### A value that has every leaf -/

/-- The value has records down to every leaf. -/
structure Whole (value : Value) : Prop where
  leads : ∀ leaf ∈ leaves, value.Leads leaf.path
  isSome : ∀ leaf ∈ leaves, ∃ found, value.find? leaf.path = some found

/-- The leaf is read from what the value has at its path. -/
def Leaf.ReadFrom (leaf : Leaf) (value : Value) (x : leaf.Held) : Prop :=
  ∃ found, value.find? leaf.path = some found ∧ leaf.reader .layered found = .ok x

theorem Whole.exists_fields {value : Value} (h : Whole value) : ∃ fields inner,
    value = .record fields ∧ Fields.Sorted fields ∧
      Fields.get? "retry" fields = some (.record inner) ∧ Fields.Sorted inner := by
  have hleaf : Leaf.ofRetrySlot RetrySettings.factorSlot ∈ leaves := by
    apply List.mem_append_right
    apply List.mem_map_of_mem
    simp [RetrySettings.slots]
  obtain ⟨fields, rfl, hsorted, hinner⟩ := Value.leads_cons_iff.mp (h.leads _ hleaf)
  obtain ⟨found, hfound⟩ := h.isSome _ hleaf
  obtain ⟨retry, hretry, _⟩ := Option.bind_eq_some_iff.mp hfound
  obtain ⟨inner, rfl, hin, _⟩ := Value.leads_cons_iff.mp (hinner retry hretry)
  exact ⟨fields, inner, rfl, hsorted, hretry, hin⟩

theorem Leaf.readFrom_iff {leaf : Leaf} {value found : Value}
    (h : value.find? leaf.path = some found) {x : leaf.Held} :
    leaf.ReadFrom value x ↔ leaf.reader .layered found = .ok x := by
  constructor
  · rintro ⟨_, hfound, hx⟩
    obtain rfl := Option.some.inj (h.symm.trans hfound)
    exact hx
  · intro hx
    exact ⟨found, h, hx⟩

theorem find?_slot {fields : Fields} (p : Slot Settings) :
    (Value.record fields).find? (Leaf.ofSlot p).path = Fields.get? p.key fields := by
  rw [Leaf.ofSlot, Value.find?_cons]
  cases Fields.get? p.key fields with
  | none => rfl
  | some _ => exact Value.find?_nil

theorem find?_retrySlot {fields inner : Fields} (p : Slot RetrySettings)
    (hretry : Fields.get? "retry" fields = some (.record inner)) :
    (Value.record fields).find? (Leaf.ofRetrySlot p).path = Fields.get? p.key inner := by
  rw [Leaf.ofRetrySlot, Value.find?_cons, hretry, Option.bind_some, Value.find?_cons]
  cases Fields.get? p.key inner with
  | none => rfl
  | some _ => exact Value.find?_nil

/-- Such a value is read leaf by leaf, -/
theorem Whole.read_ok_iff {value : Value} (h : Whole value) {s : Settings} :
    read .layered value = .ok s ↔ ∀ leaf ∈ leaves, leaf.ReadFrom value (leaf.get s) := by
  obtain ⟨fields, inner, rfl, hsorted, hretry, hin⟩ := h.exists_fields
  obtain ⟨hslot, hretrySlot⟩ := forall_leaves_iff.mp h.isSome
  have hread : read .layered (.record fields) = .ok s ↔
      ∀ p ∈ slots, p.Takes .layered (Fields.get? p.key fields) default s :=
    Slot.putFields_ok_iff lawful (Fields.nodup_names hsorted)
  have hinner : retrySlot.Takes .layered (Fields.get? retrySlot.key fields) default s ↔
      ∀ p ∈ RetrySettings.slots,
        p.Takes .layered (Fields.get? p.key inner) RetrySettings.base s.retry := by
    have hkey : Fields.get? retrySlot.key fields = some (.record inner) := hretry
    rw [hkey]
    exact Slot.putFields_ok_iff RetrySettings.lawful (Fields.nodup_names hin)
  rw [hread, lawful.forall_iff retrySlot_mem, forall_leaves_iff, and_comm, hinner]
  apply and_congr
  · apply forall₃_congr
    intro p hp hkey
    obtain ⟨found, hfound⟩ := hslot p hp hkey
    rw [Leaf.readFrom_iff hfound]
    rw [find?_slot] at hfound
    rw [hfound]
    rfl
  · apply forall₂_congr
    intro p hp
    obtain ⟨found, hfound⟩ := hretrySlot p hp
    rw [Leaf.readFrom_iff hfound]
    rw [find?_retrySlot p hretry] at hfound
    rw [hfound]
    rfl

/-- and goes wrong only at one of them. -/
theorem Whole.exists_read_iff {value : Value} (h : Whole value) :
    (∃ s, read .layered value = .ok s) ↔ ∀ leaf ∈ leaves, ∃ x, leaf.ReadFrom value x := by
  obtain ⟨fields, inner, rfl, hsorted, hretry, hin⟩ := h.exists_fields
  constructor
  · rintro ⟨s, hs⟩ leaf hleaf
    exact ⟨_, h.read_ok_iff.mp hs leaf hleaf⟩
  · intro hreads
    obtain ⟨hslot, hretrySlot⟩ := forall_leaves_iff.mp hreads
    apply (Slot.exists_putFields_iff lawful (Fields.nodup_names hsorted)).mpr
    rw [lawful.forall_iff retrySlot_mem]
    constructor
    · intro value hvalue
      obtain rfl : Value.record inner = value := Option.some.inj (hretry.symm.trans hvalue)
      apply (Slot.exists_putFields_iff RetrySettings.lawful (Fields.nodup_names hin)).mpr
      intro p hp value hvalue
      obtain ⟨x, hx⟩ := hretrySlot p hp
      exact ⟨x, (Leaf.readFrom_iff ((find?_retrySlot p hretry).trans hvalue)).mp hx⟩
    · intro p hp hkey value hvalue
      obtain ⟨x, hx⟩ := hslot p hp hkey
      exact ⟨x, (Leaf.readFrom_iff ((find?_slot p).trans hvalue)).mp hx⟩

/-! ### The layers -/

/-- The settings that are written in the file, if there is one. -/
def fileLayer (fs : FileSystem) : Option Path → Except Failure Value
  | some path => readFile fs path
  | none => .ok (.record [])

theorem load_eq (fs : FileSystem) (vars : List (String × String)) (path : Option Path) :
    load fs vars path = (fileLayer fs path).bind fun file =>
      (read .layered ((default.written.overlay file).overlay (Environment.read vars))).mapError
        fun problem => .settings (.described (Dialect.layered.message problem.mismatch ++
          shownSource (Environment.read vars) path problem.path)) := by
  unfold load
  cases path
  all_goals
    refine congrArg (Except.bind _) (funext fun file => ?_)
    dsimp only
    generalize read .layered _ = found
    cases found
    all_goals rfl

theorem load_ok_iff {fs : FileSystem} {path : Option Path} {vars : List (String × String)}
    {file : Value} {s : Settings} (hfile : fileLayer fs path = .ok file) :
    load fs vars path = .ok s ↔
      read .layered ((default.written.overlay file).overlay (Environment.read vars)) = .ok s := by
  rw [load_eq, hfile, Except.bind]
  cases read .layered ((default.written.overlay file).overlay (Environment.read vars)) with
  | ok _ => simp only [Except.mapError, Except.ok.injEq]
  | error _ => exact ⟨nofun, nofun⟩

/-- A file gives a record in which the records have their form. -/
theorem sorted_readFile {fs : FileSystem} {path : Path} {file : Value}
    (h : readFile fs path = .ok file) : ∃ fields, file = .record fields ∧ Fields.Sorted fields ∧
      ∀ name inner, Fields.get? name fields = some (.record inner) → Fields.Sorted inner := by
  unfold readFile at h
  split at h
  · cases h
  · cases h
    exact ⟨[], rfl, List.Pairwise.nil, nofun⟩
  · dsimp only at h
    split at h
    · cases h
    · split at h
      · next hfields =>
          cases h
          exact ⟨_, rfl, Yaml.sorted_fields hfields⟩
      · cases h

theorem leads_fileLayer {fs : FileSystem} {path : Option Path} {file : Value}
    (hfile : fileLayer fs path = .ok file)
    (hretry : ∀ value, file.find? ["retry"] = some value → value.isRecord = true) :
    ∀ leaf ∈ leaves, file.Leads leaf.path := by
  have hrecord : ∃ fields, file = .record fields ∧ Fields.Sorted fields ∧
      ∀ name inner, Fields.get? name fields = some (.record inner) → Fields.Sorted inner := by
    cases path with
    | none =>
        cases hfile
        exact ⟨[], rfl, List.Pairwise.nil, nofun⟩
    | some _ => exact sorted_readFile hfile
  obtain ⟨fields, rfl, hsorted, hinner⟩ := hrecord
  rw [forall_leaves_iff]
  constructor
  · intro p _ _
    exact Value.leads_cons_iff.mpr ⟨fields, rfl, hsorted, fun _ _ => Value.leads_nil⟩
  · intro p _
    refine Value.leads_cons_iff.mpr ⟨fields, rfl, hsorted, fun found hfound => ?_⟩
    have hat : (Value.record fields).find? ["retry"] = some found := by
      rw [Value.find?_cons, hfound, Option.bind_some, Value.find?_nil]
    cases found with
    | record inner =>
        exact Value.leads_cons_iff.mpr ⟨inner, rfl, hinner _ _ hfound, fun _ _ => Value.leads_nil⟩
    | _ => cases hretry _ hat

/-- The variables that are for the retry settings as a whole have records for them. -/
theorem leads_environment {vars : List (String × String)}
    (h : ∀ name raw, (name, raw) ∈ vars → Environment.path? name = some ["retry"] →
      (Environment.parse raw).isRecord = true) :
    ∀ leaf ∈ leaves, ∀ var ∈ vars, Environment.Passes leaf.path var := by
  have hshort {named rest : List String} {key first : String} (hnamed : named ≠ [])
      (hpath : [key] = named ++ first :: rest) : False := by
    cases named with
    | nil => exact hnamed rfl
    | cons _ named => simp at hpath
  rw [forall_leaves_iff]
  constructor
  · intro p _ _ var _ named hnamed first rest hpath
    exact (hshort (Environment.path?_ne_nil hnamed) hpath).elim
  · intro p _ var hvar named hnamed first rest hpath
    obtain ⟨below, rfl, hkey⟩ : ∃ below, named = "retry" :: below ∧
        [p.key] = below ++ first :: rest := by
      cases named with
      | nil => exact absurd rfl (Environment.path?_ne_nil hnamed)
      | cons _ below =>
          obtain ⟨rfl, hkey⟩ := List.cons.inj hpath
          exact ⟨below, rfl, hkey⟩
    obtain rfl : below = [] := by
      by_contra hne
      exact hshort hne hkey
    obtain ⟨rfl, rfl⟩ := List.cons.inj hkey
    have hrecord := h var.1 var.2 hvar hnamed
    cases hparse : Environment.parse var.2 with
    | record fields =>
        exact Value.leads_cons_iff.mpr
          ⟨fields, rfl, Environment.sorted_of_parse hparse, fun _ _ => Value.leads_nil⟩
    | _ =>
        rw [hparse] at hrecord
        cases hrecord

theorem isRecord_written_default : ∀ p ∈ slots, p.key ≠ retrySlot.key →
    (p.write (p.get default)).isRecord = false := by decide

theorem isRecord_written_default_retry : ∀ p ∈ RetrySettings.slots,
    (p.write (p.get default.retry)).isRecord = false := by decide

/-- The defaults have every leaf, in the form that it is read from. -/
theorem written_default_leaf : ∀ leaf ∈ leaves, default.written.Leads leaf.path ∧
    ∃ value, default.written.find? leaf.path = some value ∧ value.isRecord = false ∧
      leaf.reader .layered value = .ok (leaf.get default) := by
  obtain ⟨fields, hwritten, hwrites⟩ := exists_writes default
  obtain ⟨inner, hinner, hretries⟩ := RetrySettings.exists_writes default.retry
  have hretry : Fields.get? "retry" fields = some (.record inner) := by
    rw [← hinner]
    exact hwrites.get? retrySlot retrySlot_mem
  rw [hwritten, forall_leaves_iff]
  constructor
  · intro p hp hkey
    refine ⟨Value.leads_cons_iff.mpr ⟨_, rfl, hwrites.sorted, fun _ _ => Value.leads_nil⟩, ?_⟩
    exact ⟨_, (find?_slot p).trans (hwrites.get? p hp), isRecord_written_default p hp hkey,
      slot_of_read_written read_written_default p hp⟩
  · intro p hp
    constructor
    · refine Value.leads_cons_iff.mpr ⟨_, rfl, hwrites.sorted, fun found hfound => ?_⟩
      obtain rfl := Option.some.inj (hretry.symm.trans hfound)
      exact Value.leads_cons_iff.mpr ⟨_, rfl, hretries.sorted, fun _ _ => Value.leads_nil⟩
    · have hread := slot_of_read_written read_written_default retrySlot retrySlot_mem
      exact ⟨_, (find?_retrySlot p hretry).trans (hretries.get? p hp),
        isRecord_written_default_retry p hp, RetrySettings.slot_of_read_written hread p hp⟩

/-! ### What the layers give -/

/-- What the file and the variables give for a path: what these say is put over what that says. -/
def given (file : Value) (vars : List (String × String)) (path : List String) : Option Value :=
  Option.merge Value.overlay (file.find? path) ((Environment.read vars).find? path)

/-- The three layers put over one another. -/
def layered (file : Value) (vars : List (String × String)) : Value :=
  (default.written.overlay file).overlay (Environment.read vars)

section

variable {file value : Value} {vars : List (String × String)} {leaf : Leaf} {s : Settings}

theorem find?_layered (hfile : file.Leads leaf.path)
    (hvars : ∀ var ∈ vars, Environment.Passes leaf.path var)
    (hdefault : default.written.find? leaf.path = some value) (hplain : value.isRecord = false) :
    (layered file vars).find? leaf.path = some ((given file vars leaf.path).getD value) := by
  rw [layered, Value.find?_overlay (Environment.leads_read hvars), Value.find?_overlay hfile,
    hdefault, given]
  cases file.find? leaf.path with
  | none =>
      cases (Environment.read vars).find? leaf.path with
      | none => rfl
      | some upper => exact congrArg some (Value.overlay_of_lower hplain upper)
  | some lower =>
      rw [Option.merge_some_some, Value.overlay_of_lower hplain]
      cases (Environment.read vars).find? leaf.path with
      | none => rfl
      | some _ => rfl

theorem whole_layered (hfile : ∀ leaf ∈ leaves, file.Leads leaf.path)
    (hvars : ∀ leaf ∈ leaves, ∀ var ∈ vars, Environment.Passes leaf.path var) :
    Whole (layered file vars) where
  leads leaf hleaf := by
    obtain ⟨hdefault, _⟩ := written_default_leaf leaf hleaf
    exact Value.leads_overlay (Value.leads_overlay hdefault (hfile leaf hleaf))
      (Environment.leads_read (hvars leaf hleaf))
  isSome leaf hleaf := by
    obtain ⟨_, value, hvalue, hplain, _⟩ := written_default_leaf leaf hleaf
    exact ⟨_, find?_layered (hfile leaf hleaf) (hvars leaf hleaf) hvalue hplain⟩

theorem readFrom_layered_iff (hleaf : leaf ∈ leaves) (hfile : file.Leads leaf.path)
    (hvars : ∀ var ∈ vars, Environment.Passes leaf.path var) :
    leaf.ReadFrom (layered file vars) (leaf.get s) ↔
      leaf.Takes (given file vars leaf.path) s := by
  obtain ⟨_, value, hvalue, hplain, hread⟩ := written_default_leaf leaf hleaf
  rw [Leaf.readFrom_iff (find?_layered hfile hvars hvalue hplain)]
  cases given file vars leaf.path with
  | some _ => exact Iff.rfl
  | none =>
      rw [Option.getD_none, hread, Leaf.Takes, Except.ok.injEq]
      exact eq_comm

theorem exists_readFrom_layered_iff (hleaf : leaf ∈ leaves) (hfile : file.Leads leaf.path)
    (hvars : ∀ var ∈ vars, Environment.Passes leaf.path var) :
    (∃ x, leaf.ReadFrom (layered file vars) x) ↔
      ∀ value, given file vars leaf.path = some value →
        ∃ x, leaf.reader .layered value = .ok x := by
  obtain ⟨_, value, hvalue, hplain, hread⟩ := written_default_leaf leaf hleaf
  have hlayered := find?_layered hfile hvars hvalue hplain
  cases hgiven : given file vars leaf.path with
  | some found =>
      rw [hgiven] at hlayered
      simp only [Leaf.readFrom_iff hlayered, Option.getD_some, Option.some.injEq, forall_eq']
  | none =>
      rw [hgiven] at hlayered
      constructor
      · exact fun _ => nofun
      · intro _
        exact ⟨_, (Leaf.readFrom_iff hlayered).mpr hread⟩

/-! ### One leaf apart from the others -/

theorem path_ne_nil : ∀ leaf ∈ leaves, leaf.path ≠ [] := by decide

/-- No leaf is above another. -/
theorem path_eq_of_above : ∀ leaf ∈ leaves, ∀ other ∈ leaves,
    leaf.path <+: other.path → leaf.path = other.path := by decide

theorem apart_of_ne {other : Leaf} (hleaf : leaf ∈ leaves) (hother : other ∈ leaves)
    (hne : other.path ≠ leaf.path) : ¬other.path <+: leaf.path ∧ ¬leaf.path <+: other.path :=
  ⟨fun h => hne (path_eq_of_above other hother leaf hleaf h),
    fun h => hne (path_eq_of_above leaf hleaf other hother h).symm⟩

theorem find?_overlay_apart {other : Leaf} (hleaf : leaf ∈ leaves) (hother : other ∈ leaves)
    (hne : other.path ≠ leaf.path) (value : Value) :
    (file.overlay (Environment.nest other.path value)).find? leaf.path = file.find? leaf.path := by
  obtain ⟨hbelow, habove⟩ := apart_of_ne hleaf hother hne
  have hleads : (Environment.nest other.path value).Leads leaf.path := by
    apply Environment.leads_nest
    rintro rest hrest
    exact absurd ⟨rest, hrest.symm⟩ hbelow
  rw [Value.find?_overlay hleads, Environment.find?_nest_of_apart hbelow habove,
    Option.merge_none_right]

theorem given_of_single {name raw : String} (hvars : ∀ var ∈ vars, Environment.Passes leaf.path var)
    (hpath : Environment.path? name = some leaf.path)
    (hsingle : vars.filter (Environment.concerns leaf.path) = [(name, raw)])
    (hplain : (Environment.parse raw).isRecord = false) :
    given file vars leaf.path = some (Environment.parse raw) := by
  rw [given, Environment.find?_read_of_single hpath hvars hsingle]
  cases file.find? leaf.path with
  | none => rfl
  | some lower => exact congrArg some (Value.overlay_of_upper hplain lower)

theorem given_of_none (hleaf : leaf ∈ leaves)
    (hvars : ∀ var ∈ vars, Environment.Passes leaf.path var)
    (hnone : vars.filter (Environment.concerns leaf.path) = []) :
    given file vars leaf.path = file.find? leaf.path := by
  rw [given, Environment.find?_read (path_ne_nil leaf hleaf) hvars, hnone]
  exact Option.merge_none_right

theorem given_insert_apart {other : Leaf} {before after : List (String × String)}
    {name raw : String} (hleaf : leaf ∈ leaves) (hother : other ∈ leaves)
    (hne : other.path ≠ leaf.path)
    (hvars : ∀ var ∈ before ++ after, Environment.Passes leaf.path var)
    (hpath : Environment.path? name = some other.path) :
    given file (before ++ (name, raw) :: after) leaf.path =
      given file (before ++ after) leaf.path := by
  obtain ⟨hbelow, habove⟩ := apart_of_ne hleaf hother hne
  have hconcerns : ¬Environment.concerns leaf.path (name, raw) = true := by
    rw [Environment.concerns_iff]
    rintro ⟨named, hnamed, habout⟩
    obtain rfl := Option.some.inj (hpath.symm.trans hnamed)
    exact habout.elim hbelow habove
  have hpasses : Environment.Passes leaf.path (name, raw) := by
    intro named hnamed first rest hrest
    obtain rfl := Option.some.inj (hpath.symm.trans hnamed)
    exact absurd ⟨_, hrest.symm⟩ hbelow
  have hvars' : ∀ var ∈ before ++ (name, raw) :: after, Environment.Passes leaf.path var := by
    simp only [List.forall_mem_append, List.forall_mem_cons] at hvars ⊢
    exact ⟨hvars.1, hpasses, hvars.2⟩
  have hleafPath := path_ne_nil leaf hleaf
  rw [given, given, Environment.find?_read hleafPath hvars, Environment.find?_read hleafPath hvars',
    List.filter_append, List.filter_append, List.filter_cons_of_neg hconcerns]

end

/-- The configuration that is loaded has in each leaf what the highest layer that gives anything for
it says, and its default if none does. It is loaded exactly if all of these can be read, so what a
higher layer replaces does no harm. A variable for a leaf replaces what the file says, one for
another leaf changes nothing, and neither does another leaf of the file. All this as long as retry
settings that are given as a whole are a record. -/
theorem load_takes_highest_layer {fs : FileSystem} {path : Option Path} {file : Value}
    {vars : List (String × String)} (hfile : fileLayer fs path = .ok file)
    (hretry : ∀ value, file.find? ["retry"] = some value → value.isRecord = true)
    (hwhole : ∀ name raw, (name, raw) ∈ vars → Environment.path? name = some ["retry"] →
      (Environment.parse raw).isRecord = true) :
    (∀ s, load fs vars path = .ok s ↔
      ∀ leaf ∈ leaves, leaf.Takes (given file vars leaf.path) s) ∧
    ((∃ s, load fs vars path = .ok s) ↔
      ∀ leaf ∈ leaves, ∀ value, given file vars leaf.path = some value →
        ∃ x, leaf.reader .layered value = .ok x) ∧
    ∀ leaf ∈ leaves,
      (vars.filter (Environment.concerns leaf.path) = [] →
        given file vars leaf.path = file.find? leaf.path) ∧
      (∀ name raw, vars.filter (Environment.concerns leaf.path) = [(name, raw)] →
        Environment.path? name = some leaf.path → (Environment.parse raw).isRecord = false →
          given file vars leaf.path = some (Environment.parse raw)) ∧
      ∀ other ∈ leaves, other.path ≠ leaf.path →
        (∀ value, given (file.overlay (Environment.nest other.path value)) vars leaf.path =
          given file vars leaf.path) ∧
        ∀ before after name raw, vars = before ++ after →
          Environment.path? name = some other.path →
            given file (before ++ (name, raw) :: after) leaf.path =
              given file vars leaf.path := by
  have hleads := leads_fileLayer hfile hretry
  have hvars := leads_environment hwhole
  have hlayered : Whole (layered file vars) := whole_layered hleads hvars
  refine ⟨fun s => ?_, ?_, fun leaf hleaf => ⟨?_, ?_, fun other hother hne => ⟨?_, ?_⟩⟩⟩
  · refine (load_ok_iff hfile).trans (hlayered.read_ok_iff.trans ?_)
    apply forall₂_congr
    intro leaf hleaf
    exact readFrom_layered_iff hleaf (hleads leaf hleaf) (hvars leaf hleaf)
  · refine (exists_congr fun s => load_ok_iff hfile).trans (hlayered.exists_read_iff.trans ?_)
    apply forall₂_congr
    intro leaf hleaf
    exact exists_readFrom_layered_iff hleaf (hleads leaf hleaf) (hvars leaf hleaf)
  · exact given_of_none hleaf (hvars leaf hleaf)
  · intro name raw hsingle hpath hplain
    exact given_of_single (hvars leaf hleaf) hpath hsingle hplain
  · intro value
    rw [given, given, find?_overlay_apart hleaf hother hne]
  · rintro before after name raw rfl hpath
    exact given_insert_apart hleaf hother hne (hvars leaf hleaf) hpath

/-- A file with a setting that makes no sense. -/
def handWritten : FileSystem where
  entries := [(⟨false, ["authn.yaml"]⟩, .file 0)]
  objects := [⟨Utf8.ofString "account: me\nretry: \x7benabled: [1], max_attempts: 7\x7d\n", 0o644⟩]

def handWrittenLayer : Value := .record [
  ("account", .text "me"),
  ("retry", .record [("enabled", .list [.int 1]), ("max_attempts", .int 7)])]

private def isHandWritten : Except Failure Value → Bool
  | .ok (.record [(account, .text me),
      (retry, .record [(enabled, .list [.int 1]), (attempts, .int 7)])]) =>
    account == "account" && me == "me" && retry == "retry" && enabled == "enabled" &&
      attempts == "max_attempts"
  | _ => false

theorem fileLayer_handWritten :
    fileLayer handWritten (some "authn.yaml") = .ok handWrittenLayer := by
  have hread : isHandWritten (fileLayer handWritten (some "authn.yaml")) = true := by
    decide +kernel
  unfold isHandWritten at hread
  split at hread
  · next hlayer =>
      simp only [Bool.and_eq_true, beq_iff_eq] at hread
      obtain ⟨⟨⟨⟨rfl, rfl⟩, rfl⟩, rfl⟩, rfl⟩ := hread
      exact hlayer
  · cases hread

def enabling : List (String × String) := [("Authn_Retry__Enabled", "false")]

def enabled : Settings := { default with
  account := "me"
  retry := { RetrySettings.default with enabled := false, maxAttempts := 7 } }

theorem path?_enabling : Environment.path? "Authn_Retry__Enabled" = some ["retry", "enabled"] := by
  decide

theorem read_enabling :
    Environment.read enabling = .record [("retry", .record [("enabled", .bool false)])] := by
  have hparse : Environment.parse "false" = .bool false := rfl
  have hread : Environment.read enabling = (Value.record []).overlay
      (Environment.nest ["retry", "enabled"] (Environment.parse "false")) := by
    rw [Environment.read_eq, enabling, List.foldl_cons, List.foldl_nil, Environment.put,
      path?_enabling]
  rw [hread, hparse]
  rfl

theorem load_takes_highest_layer_enabling :
    fileLayer handWritten (some "authn.yaml") = .ok handWrittenLayer ∧
    (∀ value, handWrittenLayer.find? ["retry"] = some value → value.isRecord = true) ∧
    (∀ name raw, (name, raw) ∈ enabling → Environment.path? name = some ["retry"] →
      (Environment.parse raw).isRecord = true) ∧
    load handWritten enabling (some "authn.yaml") = .ok enabled ∧
    ∀ leaf ∈ leaves, leaf.Takes (given handWrittenLayer enabling leaf.path) enabled := by
  have hretry : ∀ value, handWrittenLayer.find? ["retry"] = some value → value.isRecord = true := by
    rintro _ ⟨⟩
    rfl
  have hwhole : ∀ name raw, (name, raw) ∈ enabling → Environment.path? name = some ["retry"] →
      (Environment.parse raw).isRecord = true := by
    intro name raw hmem hname
    obtain ⟨rfl, rfl⟩ := Prod.mk.inj (List.mem_singleton.mp hmem)
    cases path?_enabling.symm.trans hname
  have hload : load handWritten enabling (some "authn.yaml") = .ok enabled := by
    rw [load_ok_iff fileLayer_handWritten, read_enabling]
    decide +kernel
  obtain ⟨htakes, _⟩ := load_takes_highest_layer fileLayer_handWritten hretry hwhole
  exact ⟨fileLayer_handWritten, hretry, hwhole, hload, (htakes enabled).mp hload⟩

/-- All retry settings in one variable, as a list. -/
def listed : List (String × String) := [("AUTHN_RETRY", "[true]")]

/-- They replace those of the file, and one that the list leaves out is lost. -/
theorem listed_retry_loses_attempts :
    fileLayer handWritten (some "authn.yaml") = .ok handWrittenLayer ∧
    handWrittenLayer.find? ["retry", "max_attempts"] = some (.int 7) ∧
    (Environment.read listed).find? ["retry", "max_attempts"] = none ∧
    ∃ s, load handWritten listed (some "authn.yaml") = .ok s ∧ s.retry.maxAttempts = 0 := by
  have hpath : Environment.path? "AUTHN_RETRY" = some ["retry"] := by decide
  have hparse : Environment.parse "[true]" = .list [.bool true] := rfl
  have hread : Environment.read listed = .record [("retry", .list [.bool true])] := by
    have hput : Environment.read listed =
        (Value.record []).overlay (Environment.nest ["retry"] (Environment.parse "[true]")) := by
      rw [Environment.read_eq, listed, List.foldl_cons, List.foldl_nil, Environment.put, hpath]
    rw [hput, hparse]
    rfl
  have hload : load handWritten listed (some "authn.yaml") =
      .ok { default with account := "me", retry := RetrySettings.base } := by
    rw [load_ok_iff fileLayer_handWritten, hread]
    decide +kernel
  refine ⟨fileLayer_handWritten, rfl, ?_, _, hload, rfl⟩
  rw [hread]
  rfl

end WorkloadIdentity.Settings

import WorkloadIdentity.Settings.Reading

/-!
Versions and modes that are given as a text. Each of them is read in two ways, as the value of a
setting and as a text by itself. A version is the same in both. A mode is a setting's value only
under its name as it stands, while by itself it may be spelled in any letter case and with blanks
around it; so the two agree on every text but the other spellings of a mode's name.
-/

namespace WorkloadIdentity

variable {s : String}

namespace ContainerMode

variable {m : ContainerMode}

theorem ofName?_eq_some_iff : ofName? s = some m ↔ s = m.name := by
  constructor
  · intro h
    have hname := List.find?_some (p := fun mode : ContainerMode => mode.name == s) h
    exact (eq_of_beq hname).symm
  · rintro rfl
    cases m <;> decide

/-- The text is the mode's name in any letter case, with blanks around it. -/
def IsSpelled (m : ContainerMode) (s : String) : Prop :=
  (Text.trim s.toList).map Char.toLower = m.name.toList

instance (m : ContainerMode) (s : String) : Decidable (m.IsSpelled s) :=
  inferInstanceAs (Decidable (_ = _))

theorem isSpelled_name (m : ContainerMode) : m.IsSpelled m.name := by
  cases m <;> decide

theorem parse_eq_ok_iff : parse s = .ok m ↔ m.IsSpelled s := by
  rw [IsSpelled, ← String.toList_ofList (l := (Text.trim s.toList).map Char.toLower),
    String.toList_inj, ← ofName?_eq_some_iff]
  unfold parse
  dsimp only
  split
  · next found hfound => rw [hfound, Except.ok.injEq, Option.some.injEq]
  · next hnone =>
      rw [hnone]
      exact iff_of_false nofun nofun

end ContainerMode

namespace Reader

theorem mode_text_eq_ok_iff {m : ContainerMode} (dialect : Dialect) :
    mode dialect (.text s) = .ok m ↔ s = m.name := by
  have hnamed : mode dialect (.text s) = modeNamed s := by cases dialect <;> rfl
  rw [hnamed, ← ContainerMode.ofName?_eq_some_iff]
  unfold modeNamed
  cases ContainerMode.ofName? s with
  | none => exact iff_of_false nofun nofun
  | some found => rw [Except.ok.injEq, Option.some.injEq]

theorem version_text_eq_ok_iff {v : ApiVersion} (dialect : Dialect) :
    version dialect (.text s) = .ok v ↔ ApiVersion.parse s = .ok v := by
  have htext : numberOrText "Raw" dialect (.text s) = .ok s := rfl
  simp only [version, htext, bind, Except.bind]
  cases ApiVersion.parse s with
  | error fault => exact iff_of_false nofun nofun
  | ok found => rw [Except.ok.injEq, Except.ok.injEq]

end Reader

namespace Settings

/-- Whatever text a setting has, its version is the one that is parsed from the text. Its mode is
one that is parsed from the text as well, but the text may have to be written otherwise: what can be
parsed as a mode is read as the same mode exactly if it is the name of that mode. -/
theorem text_is_read_as_parsed_iff (dialect : Dialect) (s : String) :
    (∀ v, Reader.version dialect (.text s) = .ok v ↔ ApiVersion.parse s = .ok v) ∧
    (∀ m, Reader.mode dialect (.text s) = .ok m → ContainerMode.parse s = .ok m) ∧
    ((∀ m, Reader.mode dialect (.text s) = .ok m ↔ ContainerMode.parse s = .ok m) ↔
      ∀ m : ContainerMode, m.IsSpelled s → s = m.name) := by
  simp only [Reader.mode_text_eq_ok_iff, ContainerMode.parse_eq_ok_iff]
  have hname (m : ContainerMode) (h : s = m.name) : m.IsSpelled s := by
    rw [h]
    exact m.isSpelled_name
  refine ⟨fun v => Reader.version_text_eq_ok_iff dialect, hname, ?_⟩
  constructor
  · intro hsame m
    exact (hsame m).mpr
  · intro hspelled m
    exact ⟨hname m, hspelled m⟩

/-- Capitals are taken by themselves and refused in a setting. -/
theorem capital_mode_is_not_read :
    ContainerMode.parse "INIT" = .ok .init ∧
      ∀ dialect m, Reader.mode dialect (.text "INIT") ≠ .ok m := by
  refine ⟨ContainerMode.parse_eq_ok_iff.mpr (by decide), ?_⟩
  intro dialect m h
  rw [Reader.mode_text_eq_ok_iff] at h
  cases m <;> exact absurd h (by decide)

end Settings

end WorkloadIdentity

import WorkloadIdentity.Proofs.Url.Cutting
import WorkloadIdentity.Proofs.Url.Host

/-!
The authority of an address that is extended. It ends at the first slash, so a slash put behind an
address leaves it as it is. Only where the authority runs to the very end of the address, and
something was dropped there that the extension keeps, does more belong to it; then it has a host or
a port with a margin in it and is refused.
-/

namespace WorkloadIdentity.Url

variable {scheme cs more rest tail : List Char} {atEnd : Bool} {authority : Authority}

/-! ### The port -/

private theorem digits_of_parsePort_ok {port : Option Nat} (hback : '\\' ∉ rest)
    (h : parsePort scheme (':' :: rest) = .ok (port, tail)) :
    (∀ c ∈ rest, ('0' ≤ c && c ≤ '9') = true) ∧ tail = [] := by
  simp only [parsePort] at h
  split at h
  · cases h
  · split at h
    · cases h
    · next hbehind =>
        have hnil : rest.dropWhile (fun c => '0' ≤ c && c ≤ '9') = [] := by
          cases hdrop : rest.dropWhile fun c => '0' ≤ c && c ≤ '9' with
          | nil => rfl
          | cons c behind =>
              have hc : c = '\\' := by simpa [hdrop] using hbehind
              have hmem : c ∈ rest := by
                apply (List.dropWhile_suffix _).subset
                rw [hdrop]
                exact List.mem_cons_self
              exact absurd (hc ▸ hmem) hback
        cases h
        exact ⟨List.dropWhile_eq_nil_iff.mp hnil, hnil⟩

/-- A port with a margin behind it is none. -/
theorem parsePort_append_ne_ok {port port' : Option Nat} {tail' : List Char} (hback : '\\' ∉ rest)
    (h : parsePort scheme (':' :: rest) = .ok (port, tail)) (hmore : more ≠ [])
    (hmargin : ∀ c ∈ more, isMargin c = true) :
    parsePort scheme (':' :: (rest ++ more)) ≠ .ok (port', tail') := by
  intro hport
  have hdigits := (digits_of_parsePort_ok hback h).1
  obtain ⟨c, behind, rfl⟩ := List.exists_cons_of_ne_nil hmore
  have hc : isMargin c = true := hmargin c List.mem_cons_self
  have hdrop : (rest ++ c :: behind).dropWhile (fun c => '0' ≤ c && c ≤ '9') = c :: behind := by
    rw [List.dropWhile_append_of_pos hdigits, List.dropWhile_cons_of_neg]
    simp only [isDigit_of_isMargin hc, Bool.false_eq_true, not_false_eq_true]
  have hslash : ((c :: behind).head? != some '\\') = true := by
    simpa using ne_of_isMargin hc (by decide)
  simp only [parsePort, hdrop, hslash, List.isEmpty_cons, Bool.not_false, Bool.true_and,
    if_true] at hport
  split at hport
  · cases hport
  · cases hport

/-! ### Its parts -/

/-- The host and the port, behind the last `@` of an authority. -/
def hostText (cs : List Char) : List Char := ((Text.cutLast? '@' cs).map (·.2)).getD cs

/-- The user and the secret of an authority. -/
def userOf (cs : List Char) : List Char × Option (List Char) :=
  ((Text.cutLast? '@' cs).map fun (user, _) => parseUser user).getD ([], none)

private theorem map_ne_nameless {α : Type} {f : α → Host} (r : Except UrlFault α)
    (hf : ∀ x, f x ≠ .name []) : r.map f ≠ .ok (.name []) := by
  intro h
  obtain ⟨x, -, hx⟩ := exists_of_map_ok h
  exact hf x hx

/-- Behind a special scheme no host is empty. -/
theorem parseHost_ne_nameless (cs : List Char) : parseHost cs ≠ .ok (.name []) := by
  intro h
  unfold parseHost at h
  split at h
  · unfold bracketed at h
    split at h
    · exact map_ne_nameless _ nofun h
    · cases h
  · split at h
    · cases h
    · next text _ =>
        cases hname : Domain.parse text with
        | error _ =>
            rw [hname] at h
            cases h
        | ok name =>
            rw [hname] at h
            change (if name.isEmpty then _ else _) = _ at h
            split at h
            · cases h
            · next hsome =>
                split at h
                · exact map_ne_nameless _ nofun h
                · cases h
                  exact hsome rfl

/-- Behind a special scheme an authority is a host and a port, and the user is whatever stands
before them; it does not matter what stands behind. -/
theorem parseAuthority_special (hspecial : isSpecial scheme = true) :
    parseAuthority scheme atEnd cs =
      (parseHost (cutHost false (hostText cs)).1).bind fun host =>
        (parsePort scheme (cutHost false (hostText cs)).2).map fun (port, tail) =>
          ({ username := (userOf cs).1, secret := (userOf cs).2, host, port }, tail) := by
  simp only [parseAuthority, hspecial, Bool.true_and, if_true, ← hostText.eq_def]
  split
  · next h =>
      obtain ⟨rfl, _⟩ : cs = ['@'] ∧ atEnd = false := by simpa using h
      rfl
  · split
    · next hempty =>
        rw [List.isEmpty_iff.mp hempty]
        rfl
    · cases hhost : parseHost (cutHost false (hostText cs)).1 with
      | error _ => rfl
      | ok host =>
          have hname : host ≠ .name [] := by
            rintro rfl
            exact parseHost_ne_nameless _ hhost
          simp only [hname, decide_false, Bool.false_and, Bool.false_eq_true, if_false, bind,
            Except.bind, pure, Except.pure]
          cases parsePort scheme (cutHost false (hostText cs)).2 with
          | error _ => rfl
          | ok _ => rfl

theorem parseAuthority_ok (hspecial : isSpecial scheme = true)
    (h : parseAuthority scheme atEnd cs = .ok (authority, tail)) :
    parseHost (cutHost false (hostText cs)).1 = .ok authority.host ∧
      parsePort scheme (cutHost false (hostText cs)).2 = .ok (authority.port, tail) := by
  rw [parseAuthority_special hspecial] at h
  cases hhost : parseHost (cutHost false (hostText cs)).1 with
  | error _ =>
      rw [hhost] at h
      cases h
  | ok host =>
      cases hport : parsePort scheme (cutHost false (hostText cs)).2 with
      | error _ =>
          rw [hhost, hport] at h
          cases h
      | ok found =>
          rw [hhost, hport] at h
          cases h
          exact ⟨rfl, rfl⟩

theorem hostText_suffix (cs : List Char) : hostText cs <:+ cs := by
  unfold hostText Text.cutLast?
  split
  · have hrun := (List.takeWhile_prefix (· != '@') (l := cs.reverse)).reverse
    rwa [List.reverse_reverse] at hrun
  · exact List.suffix_refl _

theorem hostText_append (h : '@' ∉ more) : hostText (cs ++ more) = hostText cs ++ more := by
  rw [hostText, hostText, cutLast?_append h]
  cases Text.cutLast? '@' cs with
  | none => rfl
  | some _ => rfl

/-! ### The extended authority -/

private theorem not_mem_of_margin {d : Char} (hmargin : ∀ c ∈ more, isMargin c = true)
    (hd : isMargin d = false) : d ∉ more := by
  intro hmem
  exact absurd rfl (ne_of_isMargin (hmargin d hmem) hd)

/-- Without a backslash in it the authority leaves nothing for the path. -/
theorem tail_of_parseAuthority_ok (hspecial : isSpecial scheme = true) (hback : '\\' ∉ cs)
    (h : parseAuthority scheme atEnd cs = .ok (authority, tail)) : tail = [] := by
  have hport := (parseAuthority_ok hspecial h).2
  by_cases hnil : (cutHost false (hostText cs)).2 = []
  · rw [hnil] at hport
    exact (Prod.mk.inj (Except.ok.inj hport)).2.symm
  · obtain ⟨rest, hrest, hsuffix⟩ := cutHost_tail hnil
    rw [hrest] at hport
    apply (digits_of_parsePort_ok _ hport).2
    intro hmem
    exact hback ((hostText_suffix _).subset (hsuffix.subset (List.mem_cons_of_mem _ hmem)))

/-- An authority with a margin behind it is none. -/
theorem parseAuthority_append_ne_ok {atEnd' : Bool} {found : Authority × List Char}
    (hspecial : isSpecial scheme = true) (hback : '\\' ∉ cs)
    (h : parseAuthority scheme atEnd cs = .ok (authority, tail)) (hmore : more ≠ [])
    (hmargin : ∀ c ∈ more, isMargin c = true) :
    parseAuthority scheme atEnd' (cs ++ more) ≠ .ok found := by
  intro hfound
  obtain ⟨authority', tail'⟩ := found
  have hport := (parseAuthority_ok hspecial h).2
  obtain ⟨hhost', hport'⟩ := parseAuthority_ok hspecial hfound
  have hat : '@' ∉ more := not_mem_of_margin hmargin (by decide)
  have hcolon : ':' ∉ more := not_mem_of_margin hmargin (by decide)
  rw [hostText_append hat] at hhost' hport'
  by_cases hnil : (cutHost false (hostText cs)).2 = []
  · rw [cutHost_append_of_nil hcolon hnil] at hhost'
    exact parseHost_append_ne_ok hmore hmargin hhost'
  · obtain ⟨rest, hrest, hsuffix⟩ := cutHost_tail hnil
    have hbehind : '\\' ∉ rest := fun hmem =>
      hback ((hostText_suffix _).subset (hsuffix.subset (List.mem_cons_of_mem _ hmem)))
    rw [cutHost_append_of_ne_nil hnil, hrest] at hport'
    rw [hrest] at hport
    exact parsePort_append_ne_ok hbehind hport hmore hmargin hport'

end WorkloadIdentity.Url

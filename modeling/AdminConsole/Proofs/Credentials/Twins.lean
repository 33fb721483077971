import AdminConsole.Credentials.Store

/-!
# Stores that differ in a refresh token

Two stores are **twins** with respect to two tokens if all that they answer is the same, except that
the one may hold the first token as its refresh token where the other holds the second. A write can
tell the twins apart only by naming one of the two tokens: by asking whether the session holds it,
or by installing it and so taking away the difference on one side only. Every other write gives both
twins the same reply and leaves twins behind (`Store.Twins.apply`).

In what way the backends differ does not matter, for a store that was opened does not read its
backend any more.
-/

namespace AdminConsole

open AdminConsole.Text AdminConsole.Time

/-! ### Twin tokens -/

/-- Nothing at all, or a token other than the two. -/
structure IsStrange (r r' : String) (t : Option String) : Prop where
  ne_left : t ≠ some r
  ne_right : t ≠ some r'

/-- The same token on both sides, if any, or the first of the two on the one side and the second on
the other. -/
def Twin (r r' : String) (t t' : Option String) : Prop :=
  t' = t ∨ t = some r ∧ t' = some r'

section Tokens

variable {r r' : String} {t t' ρ ρ' : Option String} {u u' used : String}

theorem isStrange_none : IsStrange r r' none := ⟨nofun, nofun⟩

theorem Twin.refl (r r' : String) (t : Option String) : Twin r r' t t := Or.inl rfl

theorem Twin.isSome_eq (h : Twin r r' t t') : t'.isSome = t.isSome := by
  obtain rfl | ⟨rfl, rfl⟩ := h
  · rfl
  · rfl

theorem Twin.exists_of_some (h : Twin r r' (some u) t') : ∃ u', t' = some u' := by
  obtain rfl | ⟨-, rfl⟩ := h
  · exact ⟨u, rfl⟩
  · exact ⟨r', rfl⟩

theorem Twin.eq_none (h : Twin r r' none t') : t' = none := by
  obtain rfl | ⟨hnone, -⟩ := h
  · rfl
  · cases hnone

/-- Who asks for a token other than the two gets the same answer from both sides. -/
theorem Twin.eq_some_iff (h : Twin r r' t t') (hused : IsStrange r r' (some used)) :
    t' = some used ↔ t = some used := by
  obtain rfl | ⟨rfl, rfl⟩ := h
  · exact Iff.rfl
  · refine iff_of_false ?_ ?_
    · rintro heq
      exact hused.ne_right heq.symm
    · rintro heq
      exact hused.ne_left heq.symm

/-- What becomes of the two sides: they stay as they are, or get the same token, which is none of
the two. -/
def MovesAlike (r r' : String) (t t' ρ ρ' : Option String) : Prop :=
  ρ = t ∧ ρ' = t' ∨ ρ' = ρ ∧ IsStrange r r' ρ

theorem MovesAlike.twin (h : MovesAlike r r' t t' ρ ρ') (htwin : Twin r r' t t') :
    Twin r r' ρ ρ' := by
  obtain ⟨rfl, rfl⟩ | ⟨rfl, -⟩ := h
  · exact htwin
  · exact .refl r r' _

/-- Whether each side holds its own of two twin tokens is either so on both sides or on none, and
it stays that way. -/
theorem MovesAlike.holds_iff (h : MovesAlike r r' t t' ρ ρ') (hu : Twin r r' (some u) (some u'))
    (hiff : t = some u ↔ t' = some u') : ρ = some u ↔ ρ' = some u' := by
  obtain ⟨rfl, rfl⟩ | ⟨rfl, hstrange⟩ := h
  · exact hiff
  · obtain heq | ⟨hleft, hright⟩ := hu
    · rw [heq]
    · rw [hleft, hright]
      exact iff_of_false hstrange.ne_left hstrange.ne_right

end Tokens

/-! ### Twin stores -/

/-- Credentials that are the same but for the refresh token, which is a twin. -/
structure StoredCredentials.Twins (r r' : String) (c c' : StoredCredentials) : Prop where
  access : c'.session.access = c.session.access
  refresh : Twin r r' c.session.refresh c'.session.refresh
  tunnelToken : c'.tunnelToken = c.tunnelToken
  tunnelServerToken : c'.tunnelServerToken = c.tunnelServerToken
  savedAt : c'.savedAt = c.savedAt

/-- Stores that answer the same but for the refresh token, which is a twin. -/
structure Store.Twins {β : Type} (r r' : String) (s s' : Store β) : Prop where
  stored : s.stored.Twins r r' s'.stored
  peer : s'.peer = s.peer
  generation : s'.generation = s.generation

namespace StoreWrite

/-- The refresh token that the session has to hold for the write to be accepted. -/
def compared? : StoreWrite → Option String
  | .renew used _ _ | .clearIf used => some used
  | .set _ _ | .clear _ | .setSession _ | .setPeer _ | .clearPeer => none

/-- The refresh token that the write installs in a session. -/
def installed? (session : TokenPair) : StoreWrite → Option String
  | .set .refresh value => nonBlank? value
  | .setSession pair => pair.refresh
  | .renew used _ refresh => if session.refresh = some used then refresh.bind nonBlank? else none
  | .set .access _ | .set .tunnel _ | .set .tunnelServer _ | .clear _ | .clearIf _ | .setPeer _
  | .clearPeer => none

/-- The write names neither of the two tokens to a store with this session. -/
structure Avoids (r r' : String) (session : TokenPair) (w : StoreWrite) : Prop where
  compared : IsStrange r r' w.compared?
  installed : IsStrange r r' (w.installed? session)

end StoreWrite

namespace Store.Twins

variable {β : Type} {r r' : String} {s s' : Store β}

theorem get_eq (h : s.Twins r r' s') {key : CredentialKey} (hkey : key ≠ .refresh) :
    s'.get key = s.get key := by
  cases key with
  | access => exact h.stored.access
  | refresh => exact absurd rfl hkey
  | tunnel => exact h.stored.tunnelToken
  | tunnelServer => exact h.stored.tunnelServerToken

theorem holds_eq (h : s.Twins r r' s') {used : String} (hused : IsStrange r r' (some used)) :
    s'.holds used = s.holds used := by
  have hiff := h.stored.refresh.eq_some_iff hused
  rw [Bool.eq_iff_iff, holds, holds, beq_iff_eq, beq_iff_eq, hiff]

/-- Nothing is written. -/
theorem unmoved (h : s.Twins r r' s') :
    s.Twins r r' s' ∧
      MovesAlike r r' s.session.refresh s'.session.refresh s.session.refresh
        s'.session.refresh :=
  ⟨h, Or.inl ⟨rfl, rfl⟩⟩

/-- Sessions that hold the token a renewal was made with have the same refresh token after it. -/
theorem moves_renewed (h : s.Twins r r' s') {used access : String} {refresh : Option String}
    (hused : IsStrange r r' (some used)) (hleft : s.stored.session.refresh = some used)
    (hgranted : IsStrange r r' (refresh.bind nonBlank?)) :
    MovesAlike r r' s.session.refresh s'.session.refresh
      (renewed access refresh s.stored.session).refresh
      (renewed access refresh s'.stored.session).refresh := by
  have hright : s'.stored.session.refresh = some used :=
    (h.stored.refresh.eq_some_iff hused).mpr hleft
  refine Or.inr ?_
  simp only [renewed, hleft, hright]
  refine ⟨trivial, ?_⟩
  cases hgrant : refresh.bind nonBlank? with
  | none => exact hused
  | some token =>
    rw [hgrant] at hgranted
    exact hgranted

variable [Backend β]

/-- Twins that are written alike stay twins. -/
theorem write (h : s.Twins r r' s') (now : Moment) {c c' : StoredCredentials}
    (haccess : c'.session.access = c.session.access)
    (hrefresh : Twin r r' c.session.refresh c'.session.refresh)
    (htunnel : c'.tunnelToken = c.tunnelToken)
    (hserver : c'.tunnelServerToken = c.tunnelServerToken) :
    (s.write now c).Twins r r' (s'.write now c') := by
  have hinstalls : installs s'.stored { c' with savedAt := some now } =
      installs s.stored { c with savedAt := some now } := by
    simp only [installs, haccess, h.stored.access]
  refine ⟨⟨haccess, hrefresh, htunnel, hserver, rfl⟩, h.peer, ?_⟩
  simp only [Store.write, hinstalls, h.generation]

/-- Twins whose refresh tokens move alike as they are written. -/
theorem write_moves (h : s.Twins r r' s') (now : Moment) {c c' : StoredCredentials}
    (haccess : c'.session.access = c.session.access)
    (hmoves : MovesAlike r r' s.session.refresh s'.session.refresh c.session.refresh
      c'.session.refresh)
    (htunnel : c'.tunnelToken = c.tunnelToken)
    (hserver : c'.tunnelServerToken = c.tunnelServerToken) :
    (s.write now c).Twins r r' (s'.write now c') ∧
      MovesAlike r r' s.session.refresh s'.session.refresh (s.write now c).session.refresh
        (s'.write now c').session.refresh :=
  ⟨h.write now haccess (hmoves.twin h.stored.refresh) htunnel hserver, hmoves⟩

/-- **Twins.** A write that names neither token gives twins the same reply, and leaves twins whose
refresh tokens have moved alike. -/
theorem apply (h : s.Twins r r' s') {w : StoreWrite} (hw : w.Avoids r r' s.session)
    (now : Moment) :
    (s'.apply now w).1 = (s.apply now w).1 ∧
      (s.apply now w).2.Twins r r' (s'.apply now w).2 ∧
      MovesAlike r r' s.session.refresh s'.session.refresh (s.apply now w).2.session.refresh
        (s'.apply now w).2.session.refresh := by
  have hstays : MovesAlike r r' s.session.refresh s'.session.refresh s.session.refresh
      s'.session.refresh := Or.inl ⟨rfl, rfl⟩
  have hgone : MovesAlike r r' s.session.refresh s'.session.refresh none none :=
    Or.inr ⟨rfl, isStrange_none⟩
  cases w with
  | set key value =>
    refine ⟨rfl, ?_⟩
    cases key with
    | access => exact h.write_moves now rfl hstays h.stored.tunnelToken h.stored.tunnelServerToken
    | refresh =>
      exact h.write_moves now h.stored.access (Or.inr ⟨rfl, hw.installed⟩) h.stored.tunnelToken
        h.stored.tunnelServerToken
    | tunnel => exact h.write_moves now h.stored.access hstays rfl h.stored.tunnelServerToken
    | tunnelServer => exact h.write_moves now h.stored.access hstays h.stored.tunnelToken rfl
  | clear group =>
    refine ⟨rfl, ?_⟩
    cases group with
    | session => exact h.write_moves now rfl hgone h.stored.tunnelToken h.stored.tunnelServerToken
    | tunnel => exact h.write_moves now h.stored.access hstays rfl h.stored.tunnelServerToken
    | tunnelServer => exact h.write_moves now h.stored.access hstays h.stored.tunnelToken rfl
    | all => exact h.write_moves now rfl hgone rfl rfl
  | setSession pair =>
    exact ⟨rfl, h.write_moves now rfl (Or.inr ⟨rfl, hw.installed⟩) h.stored.tunnelToken
      h.stored.tunnelServerToken⟩
  | renew used access refresh =>
    have hholds := h.holds_eq hw.compared
    simp only [Store.apply, renew, hholds]
    split <;> rename_i hused
    · -- both sides hold the token that is asked for, and so it is none of the two
      have hleft : s.stored.session.refresh = some used := beq_iff_eq.mp hused
      have hgranted : IsStrange r r' (refresh.bind nonBlank?) := by
        have hinstalled := hw.installed
        rwa [StoreWrite.installed?, session, if_pos hleft] at hinstalled
      exact ⟨rfl, h.write_moves now rfl (h.moves_renewed hw.compared hleft hgranted)
        h.stored.tunnelToken h.stored.tunnelServerToken⟩
    · exact ⟨rfl, h.unmoved⟩
  | clearIf used =>
    have hholds := h.holds_eq hw.compared
    simp only [Store.apply, clearIf, hholds]
    split
    · exact ⟨rfl, h.write_moves now rfl hgone h.stored.tunnelToken h.stored.tunnelServerToken⟩
    · exact ⟨rfl, h.unmoved⟩
  | setPeer peer => exact ⟨rfl, ⟨h.stored, rfl, h.generation⟩, hstays⟩
  | clearPeer =>
    refine ⟨?_, ⟨h.stored, rfl, h.generation⟩, hstays⟩
    rw [Store.apply, Store.apply, h.peer]

end Store.Twins

end AdminConsole

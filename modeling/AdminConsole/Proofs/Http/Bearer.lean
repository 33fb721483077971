import AdminConsole.Authenticate

/-!
# Bearer tokens in headers

A request **carries** a token when its `Authorization` header is the bearer value of that token.
Two facts fix what this means for the rest of the console: a request carries at most one token
(`Request.Carries.unique`), and the token can be read back from it exactly when it is made of
visible characters (`Request.Carries.bearer`). The second is why a token that may stand in a header
can still be one that nobody can compare with the store.

There are two ways of putting a token into a request, `Request.replayWith?` and
`Attachment.withBearer`. Both make it carry the token, and both fail for the same tokens
(`Request.replayWith?_eq`, `Attachment.withBearer_of_isValid`).
-/

namespace AdminConsole

open HeaderValue

namespace HeaderValue

theorem isValid_append (a b : String) : isValid (a ++ b) = (isValid a && isValid b) := by
  simp only [isValid, String.toList_append, List.all_append]

theorem isReadable_append (a b : String) :
    isReadable (a ++ b) = (isReadable a && isReadable b) := by
  simp only [isReadable, String.toList_append, List.all_append]

/-- A visible text may stand in a header. -/
theorem isValid_of_isReadable {s : String} (h : isReadable s = true) : isValid s = true := by
  simp only [isReadable, isValid, List.all_eq_true, Bool.or_eq_true, Bool.and_eq_true,
    decide_eq_true_eq, bne_iff_ne, beq_iff_eq] at h ⊢
  intro c hc
  refine (h c hc).imp_right fun hrange => ⟨hrange.1, ?_⟩
  rintro rfl
  exact absurd hrange.2 (by decide)

/-- The bearer value of a token exists exactly for the tokens that may stand in a header. -/
theorem ofBearer?_eq (token : String) :
    ofBearer? token = if isValid token then some (bearerScheme ++ token) else none := by
  have hscheme : isValid bearerScheme = true := by decide
  simp only [ofBearer?, isValid_append, hscheme, Bool.true_and]

theorem ofBearer?_of_isValid {token : String} (h : isValid token = true) :
    ofBearer? token = some (bearerScheme ++ token) := by
  rw [ofBearer?_eq, if_pos h]

/-- What can be read back from the bearer value of a token. -/
theorem bearer?_bearerScheme_append (token : String) :
    bearer? (bearerScheme ++ token) = if isReadable token then some token else none := by
  have hscheme : isReadable bearerScheme = true := by decide
  have hprefix : bearerScheme.toList.isPrefixOf (bearerScheme ++ token).toList = true := by
    rw [String.toList_append, List.isPrefixOf_iff_prefix]
    exact List.prefix_append _ _
  have hrest : String.ofList ((bearerScheme ++ token).toList.drop bearerScheme.length) = token := by
    rw [String.toList_append, ← String.length_toList, List.drop_left, String.ofList_toList]
  simp only [bearer?, isReadable_append, hscheme, hprefix, hrest, Bool.true_and, Bool.and_true]

/-- What can be read back from a value is what it is the bearer value of. -/
theorem eq_of_bearer? {v token : String} (h : bearer? v = some token) :
    v = bearerScheme ++ token := by
  unfold bearer? at h
  split at h
  · rename_i hreadable
    obtain ⟨-, hprefix⟩ := Bool.and_eq_true_iff.mp hreadable
    obtain ⟨rest, hrest⟩ := List.isPrefixOf_iff_prefix.mp hprefix
    rw [← hrest, ← String.length_toList, List.drop_left, Option.some_inj] at h
    rw [← String.toList_inj, String.toList_append, ← hrest, ← h, String.toList_ofList]
  · cases h

end HeaderValue

/-- **Frame.** Another bearer token changes nothing under the names of the other headers. -/
theorem Headers.values_setAuthorization (h : Headers) (value : String) {name : String}
    (hname : name ≠ authorizationName) :
    ({ h with authorization := some value } : Headers).values name = h.values name := by
  have hskips : ∀ v : Option String,
      (v.map (authorizationName, ·)).toList.filter (·.1 == name) = [] := by
    intro v
    cases v with
    | none => rfl
    | some v => simp [Ne.symm hname]
  simp only [values, entries, List.filter_append, hskips]

/-! ### Requests that carry a token -/

namespace Request

/-- The `Authorization` header of the request is the bearer value of the token. -/
def Carries (r : Request) (token : String) : Prop :=
  r.headers.authorization = some (bearerScheme ++ token)

instance (r : Request) (token : String) : Decidable (r.Carries token) :=
  inferInstanceAs (Decidable (_ = _))

/-- A request carries at most one token. -/
theorem Carries.unique {r : Request} {token other : String} (h : r.Carries token)
    (h' : r.Carries other) : token = other := by
  rw [Carries, h, Option.some_inj] at h'
  exact (String.append_right_inj _).mp h'

/-- A visible token can be read back from a request that carries it. -/
theorem Carries.bearer {r : Request} {token : String} (h : r.Carries token)
    (htoken : isReadable token = true) : r.bearer = some token := by
  rw [Request.bearer, Headers.bearer, h, Option.bind_some, bearer?_bearerScheme_append,
    if_pos htoken]

/-- The token that can be read back from a request is the one that it carries. -/
theorem carries_of_bearer {r : Request} {token : String} (h : r.bearer = some token) :
    r.Carries token := by
  rw [Request.bearer, Headers.bearer, Option.bind_eq_some_iff] at h
  obtain ⟨v, hv, htoken⟩ := h
  rw [Carries, hv, eq_of_bearer? htoken]

theorem carries_withAuthorization (r : Request) (token : String) :
    (r.withAuthorization (bearerScheme ++ token)).Carries token := rfl

/-- **Replay.** A request is sent again with a token exactly if the token may stand in a header,
and then it is the same request but for that header and the mark. -/
theorem replayWith?_eq (r : Request) (token : String) :
    r.replayWith? token =
      if isValid token then
        some { r.withAuthorization (bearerScheme ++ token) with retried := true }
      else none := by
  rw [replayWith?, ofBearer?_eq]
  split <;> rfl

theorem eq_of_replayWith? {r replay : Request} {token : String}
    (h : r.replayWith? token = some replay) :
    replay = { r.withAuthorization (bearerScheme ++ token) with retried := true } := by
  rw [replayWith?_eq] at h
  split at h
  · exact (Option.some_inj.mp h).symm
  · cases h

theorem carries_of_replayWith? {r replay : Request} {token : String}
    (h : r.replayWith? token = some replay) : replay.Carries token := by
  rw [eq_of_replayWith? h]
  rfl

theorem retried_of_replayWith? {r replay : Request} {token : String}
    (h : r.replayWith? token = some replay) : replay.retried = true := by
  rw [eq_of_replayWith? h]

/-- A token that may stand in a header can be replayed with. -/
theorem exists_replayWith? (r : Request) {token : String} (h : isValid token = true) :
    ∃ replay, r.replayWith? token = some replay ∧ replay.Carries token := by
  rw [replayWith?_eq, if_pos h]
  exact ⟨_, rfl, rfl⟩

end Request

namespace Attachment

/-- A token is attached exactly if it may stand in a header. -/
theorem withBearer_of_isValid (r : Request) {token : String} (h : isValid token = true) :
    withBearer r token = .ok (r.withAuthorization (bearerScheme ++ token)) := by
  rw [withBearer, ofBearer?_of_isValid h]

end Attachment

end AdminConsole

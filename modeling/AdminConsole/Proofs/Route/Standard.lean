import AdminConsole.Route
import Mathlib.Data.List.Pairwise

/-!
# The standard table in full

A route table is sorted when it is made, and the order is a total one (`Route.precedes_trans`,
`Route.precedes_total`), so a table is known as soon as some list is a sorted rearrangement of its
entries. `RouteTable.standard_eq` lists the standard table in the order in which its prefixes are
tried; with it the scope of a given path can be computed.
-/

namespace AdminConsole

namespace Route

theorem precedes_iff {a b : Route} :
    precedes a b = true ↔
      b.1.utf8ByteSize < a.1.utf8ByteSize ∨
        (a.1.utf8ByteSize = b.1.utf8ByteSize ∧ a.1 ≤ b.1) := by
  unfold precedes
  split <;> rename_i h
  · simp [h]
  · simp [h]

theorem precedes_trans {a b c : Route} (hab : precedes a b = true) (hbc : precedes b c = true) :
    precedes a c = true := by
  rw [precedes_iff] at hab hbc ⊢
  rcases hab with hab | ⟨hab, hle⟩ <;> rcases hbc with hbc | ⟨hbc, hle'⟩
  · exact Or.inl (by omega)
  · exact Or.inl (by omega)
  · exact Or.inl (by omega)
  · exact Or.inr ⟨by omega, String.le_trans hle hle'⟩

theorem precedes_total (a b : Route) : (precedes a b || precedes b a) = true := by
  rw [Bool.or_eq_true, precedes_iff, precedes_iff]
  rcases Nat.lt_trichotomy a.1.utf8ByteSize b.1.utf8ByteSize with h | h | h
  · exact Or.inr (Or.inl h)
  · rcases String.le_total a.1 b.1 with hle | hle
    · exact Or.inl (Or.inr ⟨h, hle⟩)
    · exact Or.inr (Or.inr ⟨h.symm, hle⟩)
  · exact Or.inl (Or.inl h)

/-- Two entries each of which precedes the other have one prefix. -/
theorem eq_of_precedes {a b : Route} (hab : precedes a b = true) (hba : precedes b a = true) :
    a.1 = b.1 := by
  rw [precedes_iff] at hab hba
  rcases hab with hab | ⟨hab, hle⟩ <;> rcases hba with hba | ⟨hba, hle'⟩
  · omega
  · omega
  · omega
  · exact String.le_antisymm hle hle'

/-- A list whose entries have different prefixes keeps all of them. -/
theorem dropRepeats_of_pairwise {rs : List Route}
    (h : rs.Pairwise fun a b => a.1 ≠ b.1) : dropRepeats rs = rs := by
  induction rs with
  | nil => rw [dropRepeats]
  | cons r rest ih =>
    obtain ⟨hr, hrest⟩ := List.pairwise_cons.mp h
    cases rest with
    | nil => rw [dropRepeats]
    | cons s rest => rw [dropRepeats, if_neg (hr s (List.mem_cons_self)), ih hrest]

end Route

namespace RouteTable

/-- **Sorted tables.** A list with different prefixes that is in order is what any rearrangement
of it is sorted into. -/
theorem ofList_eq_of_perm {declared sorted : List Route}
    (hsorted : sorted.Pairwise fun a b => Route.precedes a b = true)
    (hprefixes : sorted.Pairwise fun a b => a.1 ≠ b.1)
    (hperm : declared.Perm sorted) : ofList declared = ⟨sorted⟩ := by
  -- the order compares prefixes only, but a prefix has one entry
  have hinj : ∀ a b, a ∈ sorted → b ∈ sorted → a.1 = b.1 → a = b := by
    intro a b ha hb heq
    refine Decidable.byContradiction fun hne => ?_
    have hsymm : Std.Symm fun a b : Route => a.1 ≠ b.1 := ⟨fun _ _ h => Ne.symm h⟩
    exact hprefixes.forall ha hb hne heq
  have hpairwise : (declared.mergeSort Route.precedes).Pairwise
      fun a b => Route.precedes a b = true :=
    @List.pairwise_mergeSort Route Route.precedes (fun _ _ _ => Route.precedes_trans)
      Route.precedes_total declared
  have hmerge : declared.mergeSort Route.precedes = sorted := by
    refine List.Perm.eq_of_pairwise (fun a b ha hb hab hba => ?_) hpairwise hsorted
      ((List.mergeSort_perm declared _).trans hperm)
    exact hinj a b (hperm.mem_iff.mp (List.mem_mergeSort.mp ha)) hb (Route.eq_of_precedes hab hba)
  rw [ofList, hmerge, Route.dropRepeats_of_pairwise hprefixes]

/-- The routes of an instance, in the order in which they are tried. -/
theorem standard_eq :
    standard =
      ⟨[ ("/api/v1/tunnel/auth/callback", .unscoped),
         ("/api/v1/tunnel/auth/register", .unscoped),
         ("/api/v1/tunnel/auth/login", .unscoped),
         ("/api/v1/tunnel/user_info", .tunnelClientOrServer),
         ("/api/v1/tunnel/register", .unscoped),
         ("/api/v1/tunnel/domains", .tunnelClientOrServer),
         (Endpoint.proxy, .tunnelClientOrServer),
         (Endpoint.tunnelLogin, .unscoped),
         (Endpoint.signIn, .unscoped),
         ("/api/v1/user/sign/up", .unscoped),
         (Endpoint.renewal, .unscoped),
         ("/api/v1/auth/setup", .unscoped),
         ("/api/v1/tunnel/", .tunnelGeneric) ]⟩ :=
  ofList_eq_of_perm (by decide) (by decide) (by decide)

/-- The scope of a path is that of its part before any query or fragment. -/
theorem classify_congr (t : RouteTable) {p q : String} (h : Path.cut p = Path.cut q) :
    t.classify p = t.classify q := by
  simp only [classify, h]

/-- Renewing is not among what the session itself guards. -/
theorem standard_classify_renewal : standard.classify Endpoint.renewal = .unscoped := by
  rw [standard_eq]
  decide

/-- Signing in is not among what the session itself guards. -/
theorem standard_classify_signIn : standard.classify Endpoint.signIn = .unscoped := by
  rw [standard_eq]
  decide

/-- Signing in to the tunnel server is not among what the session itself guards. -/
theorem standard_classify_tunnelLogin : standard.classify Endpoint.tunnelLogin = .unscoped := by
  rw [standard_eq]
  decide

end RouteTable

end AdminConsole

import AdminConsole.Proofs.Json.Reading
import AdminConsole.Proofs.StoredForms

/-!
# Forms that lack fields or have more of them

Pairs of tokens, credentials, settings and users are read from every JSON object that holds some of
their fields, in any order and among any unknown members: a field that is there is as given, and one
that is not has its default (`partial_forms_decode`). So what an older program wrote is read, and
what a later one will write.

What it means that the members of an object hold a value is said for each record in turn
(`TokenPair.HeldBy`, `StoredCredentials.HeldBy`, `Settings.HeldBy`, `UserInfo.HeldBy`). The texts
are those of the grammar, so how strings are escaped and where white space stands does not matter.
-/

namespace AdminConsole

open AdminConsole.Json

theorem decode?_of_valueText {α : Type} {read : Tree → Option α} {t : Tree} {text : String}
    (h : ValueText t text.toList) : decode? read text = read t := by
  rw [decode?, h.parse?_eq, Option.bind_some]

/-- An escaped surrogate without partner is a string that means no text. -/
theorem stringText_surrogate : StringText none ['"', '\\', 'u', 'd', '8', '0', '0', '"'] :=
  .quoted (.cons (.unit (a := 'd') (b := '8') (c := '0') (d := '0') rfl rfl rfl rfl) .nil)

/-- **Forms that lack fields or have more of them are read.** Every text of an object that holds
a pair, credentials, settings or a user is read as just this value. Of unknown members only the keys
matter: where one is no text, nothing is read. -/
theorem partial_forms_decode {ms : List (Option String × Tree)} {text : String}
    (h : ValueText (.object ms) text.toList) :
    (∀ p : TokenPair, p.HeldBy ms → decode? TokenPair.ofTree? text = some p) ∧
    (∀ c : StoredCredentials, c.HeldBy ms → StoredCredentials.parse? text = some c) ∧
    (∀ s : Settings, s.HeldBy ms → Settings.parse? text = some s) ∧
    (∀ u : UserInfo, u.HeldBy ms → decode? UserInfo.ofTree? text = some u) ∧
    (none ∈ keys ms →
      decode? TokenPair.ofTree? text = none ∧ StoredCredentials.parse? text = none ∧
      Settings.parse? text = none ∧ decode? UserInfo.ofTree? text = none) := by
  refine ⟨fun p hp => ?_, fun c hc => ?_, fun s hs => ?_, fun u hu => ?_, fun hnone => ?_⟩
  · rw [decode?_of_valueText h, hp.ofTree?_eq]
  · rw [StoredCredentials.parse?, decode?_of_valueText h, hc.ofTree?_eq]
  · rw [Settings.parse?, decode?_of_valueText h, hs.ofTree?_eq]
  · rw [decode?_of_valueText h, hu.ofTree?_eq]
  · have hfields (names : List String) : (Tree.object ms).fields? names = none :=
      Tree.fields?_eq_none hnone
    simp only [StoredCredentials.parse?, Settings.parse?, decode?_of_valueText h,
      TokenPair.ofTree?, StoredCredentials.ofTree?, Settings.ofTree?, UserInfo.ofTree?, hfields]
    exact ⟨rfl, rfl, rfl, rfl⟩

/-- A token is read from behind an unknown key, although the value of this key holds a number beyond
all doubles and, deeper, a surrogate without partner. -/
theorem partial_forms_decode_tunnelToken :
    StoredCredentials.parse?
        "\x7b\"x\":[1e999,\x7b\"\\ud800\":[]\x7d ],\n\t\"tunnel_token\" : \"t1\"\x7d" =
      some { tunnelToken := some "t1" } := by
  have hnumber : NumeralText ⟨false, ['1'], none, some (false, ['9', '9', '9'])⟩
      ['1', 'e', '9', '9', '9'] :=
    .positive ⟨⟨by simp, by simp [Text.isDigit]⟩, by simp⟩ .absent
      (.bare (.inl rfl) ⟨by simp, by simp [Text.isDigit]⟩)
  have hempty : ValueText (.array []) ['[', ']'] := .emptyArray (List.forall_mem_nil _)
  have hspace : IsSpace ' ' := .inl rfl
  have htab : IsSpace '\t' := .inr (.inl rfl)
  have hline : IsSpace '\n' := .inr (.inr (.inl rfl))
  have hunknown := ElementsText.cons (.number hnumber)
    (.one (.spaceAfter hspace (.object (.one (.string stringText_surrogate) hempty))))
  have hkey := ValueText.spaceBefore hline
    (.spaceBefore htab (.spaceAfter hspace (.string (stringText_quote "tunnel_token"))))
  have htoken := ValueText.spaceBefore hspace (.string (stringText_quote "t1"))
  have hmembers := MembersText.cons (.string (stringText_quote "x")) (.array hunknown)
    (.one hkey htoken)
  have hheld (unknown : Tree) : StoredCredentials.HeldBy { tunnelToken := some "t1" }
      [(some "x", unknown), (some "tunnel_token", .string (some "t1"))] :=
    { legible := ⟨by simp [keys], by simp [keys]⟩
      session := .absent (by simp [keys])
      tunnelToken := .member (List.mem_cons_of_mem _ List.mem_cons_self) rfl
      tunnelServerToken := .absent (by simp [keys])
      savedAt := .absent (by simp [keys]) }
  exact (partial_forms_decode (.object hmembers)).2.1 _ (hheld _)

/-- A surrogate without partner may be the unknown key itself. This is a JSON text as well, which
gives a token once, but nothing is read from it. -/
theorem surrogate_key_unreadable :
    ValueText
        (.object [(none, .null), (some "tunnel_token", .string (some "t1"))])
        "\x7b\"\\ud800\":null,\"tunnel_token\":\"t1\"\x7d".toList ∧
      StoredCredentials.parse? "\x7b\"\\ud800\":null,\"tunnel_token\":\"t1\"\x7d" ≠
        some { tunnelToken := some "t1" } := by
  have hmembers := MembersText.cons (.string stringText_surrogate) .null
    (.one (.string (stringText_quote "tunnel_token")) (.string (stringText_quote "t1")))
  have htext : ValueText
      (.object [(none, .null), (some "tunnel_token", .string (some "t1"))])
      "\x7b\"\\ud800\":null,\"tunnel_token\":\"t1\"\x7d".toList := .object hmembers
  have hnone : StoredCredentials.ofTree?
      (.object [(none, .null), (some "tunnel_token", .string (some "t1"))]) = none := rfl
  refine ⟨htext, ?_⟩
  rw [StoredCredentials.parse?, decode?_of_valueText htext, hnone]
  exact (Option.some_ne_none _).symm

end AdminConsole

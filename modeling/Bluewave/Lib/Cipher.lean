/-! Authenticated encryption, and a list of keys of which the head encrypts and any
may decrypt. -/
namespace Lib

variable {Key IV Plain Token : Type}

/-- A token decrypts under the key that made it, and under no other. -/
structure Cipher (Key IV Plain Token : Type) where
  encrypt : Key → IV → Plain → Token
  decrypt : Key → Token → Option Plain
  decrypt_encrypt : ∀ k iv p, decrypt k (encrypt k iv p) = some p
  decrypt_other : ∀ k k' iv p, k' ≠ k → decrypt k' (encrypt k iv p) = none

/-- Keys in order, at least one. -/
structure Keyring (Key : Type) where
  head : Key
  tail : List Key

def Keyring.keys (ks : Keyring Key) : List Key := ks.head :: ks.tail

theorem Keyring.head_mem (ks : Keyring Key) : ks.head ∈ ks.keys := List.mem_cons_self

namespace Cipher

/-- The first key that decrypts wins. -/
def decryptAny (F : Cipher Key IV Plain Token) (ks : Keyring Key) (token : Token) : Option Plain :=
  ks.keys.findSome? fun k => F.decrypt k token

section
variable {F : Cipher Key IV Plain Token} {ks : Keyring Key} {k : Key} {iv : IV} {p : Plain}

theorem decryptAny_of_mem (h : k ∈ ks.keys) :
    F.decryptAny ks (F.encrypt k iv p) = some p := by
  have hsome : (F.decryptAny ks (F.encrypt k iv p)).isSome := by
    rw [decryptAny, List.findSome?_isSome_iff]
    exact ⟨k, h, by rw [F.decrypt_encrypt]; rfl⟩
  obtain ⟨q, hq⟩ := Option.isSome_iff_exists.mp hsome
  obtain ⟨k', _, hk'⟩ := List.exists_of_findSome?_eq_some hq
  -- whichever key it was, it is the one that made the token
  have hkey : k' = k := by
    refine Classical.byContradiction fun hne => ?_
    rw [F.decrypt_other k k' iv p hne] at hk'
    cases hk'
  rw [hkey, F.decrypt_encrypt] at hk'
  rw [hq, hk']

theorem decryptAny_of_not_mem (h : k ∉ ks.keys) :
    F.decryptAny ks (F.encrypt k iv p) = none := by
  rw [decryptAny, List.findSome?_eq_none_iff]
  exact fun k' hk' => F.decrypt_other k k' iv p fun he => h (he ▸ hk')

end

/-- A cipher that keeps the plaintext in a box with its key. -/
def boxed [DecidableEq Key] : Cipher Key IV Plain (Key × IV × Plain) where
  encrypt k iv p := (k, iv, p)
  decrypt k token := if token.1 = k then some token.2.2 else none
  decrypt_encrypt _ _ _ := if_pos rfl
  decrypt_other _ _ _ _ h := if_neg fun he => h he.symm

end Cipher

end Lib

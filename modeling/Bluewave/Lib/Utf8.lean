import Mathlib.Data.List.Basic
import Bluewave.Lib.Result

/-! UTF-8, decoded as its bytes come. The bytes read of a character are kept for the next piece;
a byte that no character goes on with is refused at once. -/
namespace Lib.Utf8

/-- What a byte makes of the bytes read of a character. -/
inductive Verdict where
  | char (c : Char)
  | incomplete
  | invalid (reason : String)
  deriving DecidableEq

/-- Why decoding stops: the lead byte, where in the piece the character starts and how many
of its bytes were read. -/
structure DecodeError where
  lead : UInt8
  start : Nat
  length : Nat
  reason : String
  deriving DecidableEq

def IsTail (b : UInt8) : Prop := 0x80 ≤ b.toNat ∧ b.toNat ≤ 0xBF

/-- `b` may be the second byte of a character: not of an overlong one, a surrogate, or one
past the last. -/
def IsSecond (lead b : UInt8) : Prop :=
  IsTail b ∧ (lead.toNat = 0xE0 → 0xA0 ≤ b.toNat) ∧ (lead.toNat = 0xED → b.toNat < 0xA0) ∧
    (lead.toNat = 0xF0 → 0x90 ≤ b.toNat) ∧ (lead.toNat = 0xF4 → b.toNat < 0x90)

instance (b : UInt8) : Decidable (IsTail b) := inferInstanceAs (Decidable (_ ∧ _))

instance (lead b : UInt8) : Decidable (IsSecond lead b) := inferInstanceAs (Decidable (_ ∧ _))

def invalidStart : Verdict := .invalid "invalid start byte"

def invalidTail : Verdict := .invalid "invalid continuation byte"

/-- The byte `b` behind the bytes `seen` of a character. -/
def step : List UInt8 → UInt8 → Verdict
  | [], b =>
    if b.toNat < 0x80 then .char (Char.ofNat b.toNat)
    else if 0xC2 ≤ b.toNat ∧ b.toNat ≤ 0xF4 then .incomplete
    else invalidStart
  | [b₀], b =>
    if ¬ IsSecond b₀ b then invalidTail
    else if b₀.toNat < 0xE0 then .char (Char.ofNat ((b₀.toNat - 0xC0) * 64 + (b.toNat - 0x80)))
    else .incomplete
  | [b₀, b₁], b =>
    if ¬ IsTail b then invalidTail
    else if b₀.toNat < 0xF0 then
      .char (Char.ofNat ((b₀.toNat - 0xE0) * 4096 + (b₁.toNat - 0x80) * 64 + (b.toNat - 0x80)))
    else .incomplete
  | [b₀, b₁, b₂], b =>
    if ¬ IsTail b then invalidTail
    else .char (Char.ofNat ((b₀.toNat - 0xF0) * 262144 + (b₁.toNat - 0x80) * 4096 +
      (b₂.toNat - 0x80) * 64 + (b.toNat - 0x80)))
  | _, _ => invalidStart

/-- The characters of a piece behind `seen`, and what has been read of the next one. -/
def decode : List UInt8 → Nat → List UInt8 → Except DecodeError (List Char × List UInt8)
  | seen, _, [] => .ok ([], seen)
  | seen, start, b :: bytes =>
    match step seen b with
    | .char c => do
      let (chars, kept) ← decode [] (start + seen.length + 1) bytes
      pure (c :: chars, kept)
    | .incomplete => decode (seen ++ [b]) start bytes
    | .invalid reason => .error ⟨seen.headD b, start, max 1 seen.length, reason⟩

/-- The end of the bytes, behind the bytes `seen` of a character. -/
def finish : List UInt8 → Except DecodeError Unit
  | [] => .ok ()
  | lead :: seen => .error ⟨lead, 0, seen.length + 1, "unexpected end of data"⟩

/-- All pieces, one after the other. -/
def decodeAll : List UInt8 → List (List UInt8) → Except DecodeError (List Char)
  | seen, [] => do
    finish seen
    pure []
  | seen, piece :: pieces => do
    let (chars, kept) ← decode seen 0 piece
    let rest ← decodeAll kept pieces
    pure (chars ++ rest)

def encode (chars : List Char) : List UInt8 := chars.flatMap String.utf8EncodeChar

/-- The bytes of a character that is not complete. -/
def Begun : List UInt8 → Prop
  | [] => True
  | [b₀] => 0xC2 ≤ b₀.toNat ∧ b₀.toNat ≤ 0xF4
  | [b₀, b₁] => 0xE0 ≤ b₀.toNat ∧ b₀.toNat ≤ 0xF4 ∧ IsSecond b₀ b₁
  | [b₀, b₁, b₂] => 0xF0 ≤ b₀.toNat ∧ b₀.toNat ≤ 0xF4 ∧ IsSecond b₀ b₁ ∧ IsTail b₂
  | _ => False

/-! ## One byte -/

theorem val_ofNat {n : Nat} (h : n.isValidChar) : (Char.ofNat n).val.toNat = n := by
  rw [Char.ofNat, dif_pos h]
  rfl

section
variable {seen : List UInt8} {b b₀ b₁ b₂ b₃ : UInt8} {c : Char}

/-- The code of a character, by the numbers of its bytes. -/
theorem encode_ofNat {n : Nat} (h : n.isValidChar) :
    (n = b₀.toNat → n ≤ 0x7F → String.utf8EncodeChar (Char.ofNat n) = [b₀]) ∧
      (n / 64 % 0x20 + 0xC0 = b₀.toNat → n % 0x40 + 0x80 = b₁.toNat → 0x7F < n → n ≤ 0x7FF →
        String.utf8EncodeChar (Char.ofNat n) = [b₀, b₁]) ∧
      (n / 4096 % 0x10 + 0xE0 = b₀.toNat → n / 64 % 0x40 + 0x80 = b₁.toNat →
        n % 0x40 + 0x80 = b₂.toNat → 0x7FF < n → n ≤ 0xFFFF →
        String.utf8EncodeChar (Char.ofNat n) = [b₀, b₁, b₂]) ∧
      (n / 262144 % 8 + 0xF0 = b₀.toNat → n / 4096 % 0x40 + 0x80 = b₁.toNat →
        n / 64 % 0x40 + 0x80 = b₂.toNat → n % 0x40 + 0x80 = b₃.toNat → 0xFFFF < n →
        String.utf8EncodeChar (Char.ofNat n) = [b₀, b₁, b₂, b₃]) := by
  have hval := val_ofNat h
  refine ⟨fun h0 hle => ?_, fun h0 h1 hlt hle => ?_, fun h0 h1 h2 hlt hle => ?_,
    fun h0 h1 h2 h3 hlt => ?_⟩
  · simp only [String.utf8EncodeChar, hval]
    rw [if_pos hle, h0, UInt8.ofNat_toNat]
  · simp only [String.utf8EncodeChar, hval]
    rw [if_neg (by omega), if_pos hle, h0, h1, UInt8.ofNat_toNat, UInt8.ofNat_toNat]
  · simp only [String.utf8EncodeChar, hval]
    rw [if_neg (by omega), if_neg (by omega), if_pos hle, h0, h1, h2, UInt8.ofNat_toNat,
      UInt8.ofNat_toNat, UInt8.ofNat_toNat]
  · simp only [String.utf8EncodeChar, hval]
    rw [if_neg (by omega), if_neg (by omega), if_neg (by omega), h0, h1, h2, h3,
      UInt8.ofNat_toNat, UInt8.ofNat_toNat, UInt8.ofNat_toNat, UInt8.ofNat_toNat]

/-- A character is decoded where its code is complete. -/
theorem encode_of_char (hs : Begun seen) (h : step seen b = .char c) :
    String.utf8EncodeChar c = seen ++ [b] := by
  unfold step at h
  split at h
  · split at h
    · rename_i hlt
      cases h
      have hvalid : Nat.isValidChar b.toNat := .inl (by omega)
      exact (@encode_ofNat b b b b _ hvalid).1 rfl (by omega)
    · split at h <;> cases h
  · rename_i b₀
    simp only [Begun] at hs
    split at h
    · cases h
    · rename_i hsecond
      obtain ⟨⟨hlo, hhi⟩, -⟩ := not_not.mp hsecond
      split at h
      · have hvalid : Nat.isValidChar ((b₀.toNat - 0xC0) * 64 + (b.toNat - 0x80)) := by
          unfold Nat.isValidChar
          omega
        obtain ⟨-, htwo, -⟩ := @encode_ofNat b₀ b b b _ hvalid
        exact Verdict.char.inj h ▸ htwo (by omega) (by omega) (by omega) (by omega)
      · cases h
  · rename_i b₀ b₁
    obtain ⟨hlead, -, ⟨hlo₁, hhi₁⟩, hE0, hED, -, -⟩ := hs
    split at h
    · cases h
    · rename_i htail
      obtain ⟨hlo, hhi⟩ := not_not.mp htail
      split at h
      · have hvalid : Nat.isValidChar ((b₀.toNat - 0xE0) * 4096 + (b₁.toNat - 0x80) * 64 +
            (b.toNat - 0x80)) := by
          unfold Nat.isValidChar
          omega
        obtain ⟨-, -, hthree, -⟩ := @encode_ofNat b₀ b₁ b b _ hvalid
        exact Verdict.char.inj h ▸
          hthree (by omega) (by omega) (by omega) (by omega) (by omega)
      · cases h
  · rename_i b₀ b₁ b₂
    obtain ⟨hlead, hlast, ⟨⟨hlo₁, hhi₁⟩, -, -, hF0, hF4⟩, hlo₂, hhi₂⟩ := hs
    split at h
    · cases h
    · rename_i htail
      obtain ⟨hlo, hhi⟩ := not_not.mp htail
      have hvalid : Nat.isValidChar ((b₀.toNat - 0xF0) * 262144 + (b₁.toNat - 0x80) * 4096 +
          (b₂.toNat - 0x80) * 64 + (b.toNat - 0x80)) := by
        unfold Nat.isValidChar
        omega
      obtain ⟨-, -, -, hfour⟩ := @encode_ofNat b₀ b₁ b₂ b _ hvalid
      exact Verdict.char.inj h ▸ hfour (by omega) (by omega) (by omega) (by omega) (by omega)
  · cases h

theorem begun_of_incomplete (hs : Begun seen) (h : step seen b = .incomplete) :
    Begun (seen ++ [b]) := by
  unfold step at h
  split at h
  · split at h
    · cases h
    · split at h
      · rename_i hlead
        exact hlead
      · cases h
  · simp only [Begun] at hs
    split at h
    · cases h
    · rename_i hsecond
      split at h
      · cases h
      · exact ⟨by omega, hs.2, not_not.mp hsecond⟩
  · obtain ⟨-, hlast, hsecond⟩ := hs
    split at h
    · cases h
    · rename_i htail
      split at h
      · cases h
      · exact ⟨by omega, hlast, hsecond, not_not.mp htail⟩
  · split at h <;> cases h
  · cases h

/-! ## A whole character -/

theorem toNat_ofNat_of_lt {n : Nat} (h : n < 256) : (UInt8.ofNat n).toNat = n := by
  rw [UInt8.toNat_ofNat']
  omega

theorem decode_of_char {start : Nat} {bytes : List UInt8} (h : step seen b = .char c) :
    decode seen start (b :: bytes) = (do
      let (chars, kept) ← decode [] (start + seen.length + 1) bytes
      pure (c :: chars, kept)) := by
  simp only [decode, h]

theorem decode_of_incomplete {start : Nat} {bytes : List UInt8} (h : step seen b = .incomplete) :
    decode seen start (b :: bytes) = decode (seen ++ [b]) start bytes := by
  simp only [decode, h]

/-- The code of a character is decoded to it. -/
theorem decode_utf8EncodeChar (c : Char) (start : Nat) (bytes : List UInt8) :
    ∃ next, decode [] start (String.utf8EncodeChar c ++ bytes) = (do
      let (chars, kept) ← decode [] next bytes
      pure (c :: chars, kept)) := by
  have hv : c.val.toNat < 0xD800 ∨ 0xDFFF < c.val.toNat ∧ c.val.toNat < 0x110000 := c.valid
  have hc : Char.ofNat c.val.toNat = c := Char.ofNat_toNat c
  generalize hn : c.val.toNat = n at hv hc
  simp only [String.utf8EncodeChar, hn]
  split
  · rename_i hle
    have h₀ := toNat_ofNat_of_lt (n := n) (by omega)
    refine ⟨_, decode_of_char ?_⟩
    simp only [step, h₀]
    rw [if_pos (by omega), hc]
  split
  · rename_i hle
    have h₀ := toNat_ofNat_of_lt (n := n / 64 % 0x20 + 0xc0) (by omega)
    have h₁ := toNat_ofNat_of_lt (n := n % 0x40 + 0x80) (by omega)
    refine ⟨_, (decode_of_incomplete ?_).trans (decode_of_char ?_)⟩
    · simp only [step, h₀]
      rw [if_neg (by omega), if_pos (by omega)]
    · simp only [step, List.nil_append, IsSecond, IsTail, h₀, h₁]
      have hval : (n / 64 % 0x20 + 0xc0 - 0xC0) * 64 + (n % 0x40 + 0x80 - 0x80) = n := by omega
      rw [if_neg (by omega), if_pos (by omega), hval, hc]
  split
  · rename_i hle
    have h₀ := toNat_ofNat_of_lt (n := n / 4096 % 0x10 + 0xe0) (by omega)
    have h₁ := toNat_ofNat_of_lt (n := n / 64 % 0x40 + 0x80) (by omega)
    have h₂ := toNat_ofNat_of_lt (n := n % 0x40 + 0x80) (by omega)
    refine ⟨_, (decode_of_incomplete ?_).trans ((decode_of_incomplete ?_).trans
      (decode_of_char ?_))⟩
    · simp only [step, h₀]
      rw [if_neg (by omega), if_pos (by omega)]
    · simp only [step, List.nil_append, IsSecond, IsTail, h₀, h₁]
      rw [if_neg (by omega), if_neg (by omega)]
    · simp only [step, List.nil_append, List.cons_append, IsTail, h₀, h₁, h₂]
      have hval : (n / 4096 % 0x10 + 0xe0 - 0xE0) * 4096 + (n / 64 % 0x40 + 0x80 - 0x80) * 64 +
          (n % 0x40 + 0x80 - 0x80) = n := by omega
      rw [if_neg (by omega), if_pos (by omega), hval, hc]
  · have h₀ := toNat_ofNat_of_lt (n := n / 262144 % 0x08 + 0xf0) (by omega)
    have h₁ := toNat_ofNat_of_lt (n := n / 4096 % 0x40 + 0x80) (by omega)
    have h₂ := toNat_ofNat_of_lt (n := n / 64 % 0x40 + 0x80) (by omega)
    have h₃ := toNat_ofNat_of_lt (n := n % 0x40 + 0x80) (by omega)
    refine ⟨_, (decode_of_incomplete ?_).trans ((decode_of_incomplete ?_).trans
      ((decode_of_incomplete ?_).trans (decode_of_char ?_)))⟩
    · simp only [step, h₀]
      rw [if_neg (by omega), if_pos (by omega)]
    · simp only [step, List.nil_append, IsSecond, IsTail, h₀, h₁]
      rw [if_neg (by omega), if_neg (by omega)]
    · simp only [step, List.nil_append, List.cons_append, IsTail, h₀, h₂]
      rw [if_neg (by omega), if_neg (by omega)]
    · simp only [step, List.nil_append, List.cons_append, IsTail, h₀, h₁, h₂, h₃]
      have hval : (n / 262144 % 0x08 + 0xf0 - 0xF0) * 262144 +
          (n / 4096 % 0x40 + 0x80 - 0x80) * 4096 + (n / 64 % 0x40 + 0x80 - 0x80) * 64 +
          (n % 0x40 + 0x80 - 0x80) = n := by omega
      rw [if_neg (by omega), hval, hc]

/-! ## All bytes -/

/-- What is decoded and kept is what was read. -/
theorem decode_sound {start : Nat} {bytes kept : List UInt8} {chars : List Char} (hs : Begun seen)
    (h : decode seen start bytes = .ok (chars, kept)) :
    seen ++ bytes = encode chars ++ kept ∧ Begun kept := by
  induction bytes generalizing seen start chars with
  | nil =>
    cases h
    exact ⟨List.append_nil kept, hs⟩
  | cons b bytes ih =>
    rw [List.append_cons]
    cases hstep : step seen b with
    | char c =>
      rw [decode_of_char hstep] at h
      cases hrest : decode [] (start + seen.length + 1) bytes with
      | error e =>
        rw [hrest] at h
        cases h
      | ok r =>
        obtain ⟨rest, kept'⟩ := r
        rw [hrest] at h
        cases h
        obtain ⟨heq, hkept⟩ := @ih [] _ _ trivial hrest
        refine ⟨?_, hkept⟩
        rw [encode, List.flatMap_cons, encode_of_char hs hstep, List.append_assoc _ _ kept, ← encode,
          ← heq, List.nil_append]
    | incomplete =>
      rw [decode_of_incomplete hstep] at h
      exact ih (begun_of_incomplete hs hstep) h
    | invalid reason =>
      simp only [decode, hstep] at h
      cases h

theorem decode_encode (chars : List Char) (start : Nat) :
    decode [] start (encode chars) = .ok (chars, []) := by
  induction chars generalizing start with
  | nil => rfl
  | cons c chars ih =>
    obtain ⟨next, hnext⟩ := decode_utf8EncodeChar c start (encode chars)
    rw [encode, List.flatMap_cons, ← encode, hnext, ih next]
    rfl

/-- A character first, then the rest. -/
theorem decode_of_char_eq_ok {start : Nat} {bytes kept : List UInt8} {chars : List Char}
    (h : step seen b = .char c) : decode seen start (b :: bytes) = .ok (chars, kept) ↔
      ∃ rest, decode [] (start + seen.length + 1) bytes = .ok (rest, kept) ∧ chars = c :: rest := by
  rw [decode_of_char h]
  cases decode [] (start + seen.length + 1) bytes with
  | error e => simp [bind, Except.bind]
  | ok r =>
    obtain ⟨rest, kept'⟩ := r
    simp only [bind, Except.bind, pure, Except.pure, Except.ok.injEq, Prod.mk.injEq]
    constructor
    · intro h
      obtain ⟨rfl, rfl⟩ := h
      exact ⟨rest, ⟨rfl, rfl⟩, rfl⟩
    · intro h
      obtain ⟨_, ⟨rfl, rfl⟩, rfl⟩ := h
      exact ⟨rfl, rfl⟩

/-- The place of the bytes is for the message only. -/
theorem decode_start {start : Nat} (start' : Nat) {bytes kept : List UInt8} {chars : List Char}
    (h : decode seen start bytes = .ok (chars, kept)) :
    decode seen start' bytes = .ok (chars, kept) := by
  induction bytes generalizing seen start start' chars with
  | nil => exact h
  | cons b bytes ih =>
    cases hstep : step seen b with
    | char c =>
      obtain ⟨rest, hrest, rfl⟩ := (decode_of_char_eq_ok hstep).mp h
      exact (decode_of_char_eq_ok hstep).mpr ⟨rest, ih _ hrest, rfl⟩
    | incomplete =>
      rw [decode_of_incomplete hstep] at h ⊢
      exact ih start' h
    | invalid reason =>
      simp only [decode, hstep] at h
      cases h

/-- Where a piece ends makes no difference to what is decoded. -/
theorem decode_append (start start' : Nat) {bytes more kept : List UInt8} {chars : List Char} :
    decode seen start (bytes ++ more) = .ok (chars, kept) ↔ ∃ first second kept',
      decode seen start bytes = .ok (first, kept') ∧ decode kept' start' more = .ok (second, kept) ∧
        chars = first ++ second := by
  induction bytes generalizing seen start chars with
  | nil =>
    constructor
    · intro h
      exact ⟨[], chars, seen, rfl, decode_start start' h, rfl⟩
    · intro h
      obtain ⟨first, second, kept', hfirst, hsecond, rfl⟩ := h
      cases hfirst
      exact decode_start start hsecond
  | cons b bytes ih =>
    rw [List.cons_append]
    cases hstep : step seen b with
    | char c =>
      rw [decode_of_char_eq_ok hstep]
      simp only [decode_of_char_eq_ok hstep, ih]
      constructor
      · intro h
        obtain ⟨_, ⟨first, second, kept', hfirst, hsecond, rfl⟩, rfl⟩ := h
        exact ⟨c :: first, second, kept', ⟨first, hfirst, rfl⟩, hsecond, rfl⟩
      · intro h
        obtain ⟨_, second, kept', ⟨first, hfirst, rfl⟩, hsecond, rfl⟩ := h
        exact ⟨first ++ second, ⟨first, second, kept', hfirst, hsecond, rfl⟩, rfl⟩
    | incomplete =>
      rw [decode_of_incomplete hstep, ih]
      simp only [decode_of_incomplete hstep]
    | invalid reason => simp [decode, hstep]

theorem decodeAll_cons {piece : List UInt8} {pieces : List (List UInt8)} {chars : List Char} :
    decodeAll seen (piece :: pieces) = .ok chars ↔ ∃ first rest kept,
      decode seen 0 piece = .ok (first, kept) ∧ decodeAll kept pieces = .ok rest ∧
        chars = first ++ rest := by
  simp only [decodeAll, Result.bind_eq_ok]
  constructor
  · intro h
    obtain ⟨⟨first, kept⟩, hpiece, rest, hrest, h⟩ := h
    exact ⟨first, rest, kept, hpiece, hrest, (Except.ok.inj h).symm⟩
  · intro h
    obtain ⟨first, rest, kept, hpiece, hrest, hchars⟩ := h
    exact ⟨(first, kept), hpiece, rest, hrest, hchars ▸ rfl⟩

theorem decodeAll_eq_ok {pieces : List (List UInt8)} {chars : List Char} :
    decodeAll seen pieces = .ok chars ↔ decode seen 0 pieces.flatten = .ok (chars, []) := by
  induction pieces generalizing seen chars with
  | nil =>
    cases seen with
    | nil => simp [decodeAll, finish, decode, bind, Except.bind, pure, Except.pure, eq_comm]
    | cons b seen => simp [decodeAll, finish, decode, bind, Except.bind]
  | cons piece pieces ih =>
    rw [decodeAll_cons, List.flatten_cons, decode_append 0 0]
    simp only [ih]

end

/-- However they are cut, bytes are decoded exactly when they are the code of a text. -/
theorem decodeAll_iff (pieces : List (List UInt8)) (chars : List Char) :
    decodeAll [] pieces = .ok chars ↔ pieces.flatten = encode chars := by
  rw [decodeAll_eq_ok]
  constructor
  · intro h
    have hsound := (@decode_sound [] _ _ _ _ trivial h).1
    rwa [List.nil_append, List.append_nil] at hsound
  · intro h
    rw [h]
    exact decode_encode chars 0

end Lib.Utf8

import MusicProviders.Cipher.Stripe
import Mathlib

/-! # Blowfish decryption inverts encryption

Block decryption undoes block encryption under every key schedule, and CBC decryption
undoes CBC encryption for every initial vector of one block, whatever the length of the
data: the full blocks come back through the chaining and a trailing partial block is
never touched.

The block result does not depend on the subkeys or on the round function. Encryption is
sixteen Feistel rounds followed by a whitening; one round of decryption, taken right
after the whitening, cancels the last round of encryption and leaves a whitening with
the two entries before (`roundStep_whiten_roundStep`). Peeling the rounds off one by one
(`unwind`) leaves two whitenings, which cancel.
-/

namespace MusicProviders.Blowfish

/-! ## Exclusive or -/

theorem xor_xor_cancel (a b : UInt32) : a ^^^ b ^^^ b = a := by
  rw [UInt32.xor_assoc, UInt32.xor_self, UInt32.xor_zero]

theorem xor_right_comm (a b c : UInt32) : a ^^^ b ^^^ c = a ^^^ c ^^^ b := by
  rw [UInt32.xor_assoc, UInt32.xor_comm b, ← UInt32.xor_assoc]

@[simp] theorem length_xorBytes (a b : Bytes) : (xorBytes a b).length = min a.length b.length :=
  List.length_zipWith

theorem xorBytes_xorBytes_cancel {a b : Bytes} (sameLength : a.length = b.length) :
    xorBytes (xorBytes a b) b = a := by
  induction a generalizing b with
  | nil => rfl
  | cons x xs inductionHypothesis =>
    cases b with
    | nil => cases sameLength
    | cons y ys =>
      have tailCancels := inductionHypothesis (Nat.succ.inj sameLength)
      simp only [xorBytes, List.zipWith_cons_cons] at tailCancels ⊢
      rw [tailCancels, UInt8.xor_assoc, UInt8.xor_self, UInt8.xor_zero]

/-! ## Feistel rounds -/

namespace Schedule

/-- One round of `feistel` with the P-array entry at `i`. -/
def roundStep (k : Schedule) (x : UInt32 × UInt32) (i : Nat) : UInt32 × UInt32 :=
  (x.2 ^^^ k.round (x.1 ^^^ k.p.getD i 0), x.1 ^^^ k.p.getD i 0)

/-- The whitening that ends `feistel`: the halves swap back and take the entries at `j`
(left) and `i` (right). -/
def whiten (k : Schedule) (i j : Nat) (x : UInt32 × UInt32) : UInt32 × UInt32 :=
  (x.2 ^^^ k.p.getD j 0, x.1 ^^^ k.p.getD i 0)

theorem feistel_eq (k : Schedule) (order : List Nat) (i j : Nat) (l r : UInt32) :
    k.feistel order i j l r = k.whiten i j (order.foldl k.roundStep (l, r)) :=
  rfl

/-- A round with entry `q` right after a whitening with `a q` cancels the round before
it (entry `p`): what is left is a whitening with `p a`. -/
theorem roundStep_whiten_roundStep (k : Schedule) (p a q : Nat) (x : UInt32 × UInt32) :
    k.roundStep (k.whiten a q (k.roundStep x p)) q = k.whiten p a x := by
  simp only [roundStep, whiten, xor_xor_cancel]
  rw [xor_right_comm _ _ (k.p.getD a 0), xor_xor_cancel]

theorem whiten_whiten (k : Schedule) (i j : Nat) (x : UInt32 × UInt32) :
    k.whiten j i (k.whiten i j x) = x := by
  simp only [whiten, xor_xor_cancel]

/-- The entries of the decryption rounds that undo an encryption whose rounds used
`rounds`, last round first, and whose whitening used `a q`. -/
def unwindOrder : Nat → Nat → List Nat → List Nat
  | _, _, [] => []
  | a, q, r :: rounds => q :: unwindOrder r a rounds

/-- The whitening left once every round is undone: the first two entries used. -/
def unwindWhitening : Nat → Nat → List Nat → Nat × Nat
  | a, q, [] => (a, q)
  | a, _, r :: rounds => unwindWhitening r a rounds

/-- Undoing the rounds one by one: the rounds are applied last first (a `foldr`), and
each decryption round consumes the outermost one. -/
theorem unwind (k : Schedule) (rounds : List Nat) (a q : Nat) (x : UInt32 × UInt32) :
    (unwindOrder a q rounds).foldl k.roundStep
        (k.whiten a q (rounds.foldr (fun i y => k.roundStep y i) x)) =
      k.whiten (unwindWhitening a q rounds).1 (unwindWhitening a q rounds).2 x := by
  induction rounds generalizing a q with
  | nil => rfl
  | cons r rounds inductionHypothesis =>
    simp only [unwindOrder, unwindWhitening, List.foldl_cons, List.foldr_cons]
    rw [roundStep_whiten_roundStep, inductionHypothesis]

/-- Decrypting an encrypted block gives the block back, for every key schedule. -/
theorem decryptBlock_encryptBlock (k : Schedule) (l r : UInt32) :
    k.decryptBlock (k.encryptBlock l r).1 (k.encryptBlock l r).2 = (l, r) := by
  -- decryption runs the entries 17 down to 2, which is the unwinding of 0 to 15
  have order : (List.range 16).map (fun i => 17 - i) =
      unwindOrder 16 17 (List.range 16).reverse := by decide
  have ends : unwindWhitening 16 17 (List.range 16).reverse = (0, 1) := by decide
  have encrypt : k.encryptBlock l r =
      k.whiten 16 17 ((List.range 16).reverse.foldr (fun i y => k.roundStep y i) (l, r)) := by
    rw [List.foldr_reverse]
    rfl
  rw [encrypt]
  change k.whiten 1 0 (((List.range 16).map (fun i => 17 - i)).foldl k.roundStep _) = _
  rw [order, unwind, ends, whiten_whiten]

end Schedule

/-! ## Words and blocks of bytes -/

theorem toNat_shiftLeft_or (acc : UInt32) (b : UInt8) :
    ((acc <<< 8) ||| b.toUInt32).toNat = acc.toNat % 2 ^ 24 * 2 ^ 8 + b.toNat := by
  have low := b.toNat_lt
  have shifted : (acc <<< 8).toNat = acc.toNat % 2 ^ 24 * 2 ^ 8 := by
    rw [UInt32.toNat_shiftLeft, Nat.shiftLeft_eq]
    simp only [UInt32.reduceToNat, Nat.reduceMod]
    omega
  rw [UInt32.toNat_or, shifted, UInt8.toNat_toUInt32, ← Nat.shiftLeft_eq,
    ← Nat.shiftLeft_add_eq_or_of_lt low]

theorem toNat_wordBE (b₀ b₁ b₂ b₃ : UInt8) :
    (wordBE [b₀, b₁, b₂, b₃]).toNat =
      b₀.toNat * 2 ^ 24 + b₁.toNat * 2 ^ 16 + b₂.toNat * 2 ^ 8 + b₃.toNat := by
  have h₀ := b₀.toNat_lt
  have h₁ := b₁.toNat_lt
  have h₂ := b₂.toNat_lt
  simp only [wordBE, List.foldl_cons, List.foldl_nil, toNat_shiftLeft_or, UInt32.toNat_zero]
  omega

@[simp] theorem length_wordBytesBE (w : UInt32) : (wordBytesBE w).length = 4 := rfl

theorem wordBE_wordBytesBE (w : UInt32) : wordBE (wordBytesBE w) = w := by
  apply UInt32.toNat_inj.mp
  have bound := w.toNat_lt
  rw [wordBytesBE, toNat_wordBE]
  simp only [UInt32.toNat_toUInt8, UInt32.toNat_shiftRight, Nat.shiftRight_eq_div_pow,
    UInt32.reduceToNat, Nat.reduceMod]
  omega

theorem wordBytesBE_wordBE {bytes : Bytes} (four : bytes.length = 4) :
    wordBytesBE (wordBE bytes) = bytes := by
  match bytes, four with
  | [b₀, b₁, b₂, b₃], _ =>
    have word := toNat_wordBE b₀ b₁ b₂ b₃
    have h₀ := b₀.toNat_lt
    have h₁ := b₁.toNat_lt
    have h₂ := b₂.toNat_lt
    have h₃ := b₃.toNat_lt
    simp only [wordBytesBE, List.cons.injEq, ← UInt8.toNat_inj, UInt32.toNat_toUInt8,
      UInt32.toNat_shiftRight, Nat.shiftRight_eq_div_pow, UInt32.reduceToNat, Nat.reduceMod,
      word, and_true]
    omega

theorem encryptBytes_eq (k : Schedule) (block : Bytes) :
    encryptBytes k block =
      wordBytesBE (k.encryptBlock (wordBE (block.take 4)) (wordBE (block.drop 4))).1 ++
        wordBytesBE (k.encryptBlock (wordBE (block.take 4)) (wordBE (block.drop 4))).2 :=
  rfl

@[simp] theorem length_encryptBytes (k : Schedule) (block : Bytes) :
    (encryptBytes k block).length = 8 := by
  simp [encryptBytes_eq]

theorem decryptBytes_encryptBytes (k : Schedule) {block : Bytes} (eight : block.length = 8) :
    decryptBytes k (encryptBytes k block) = block := by
  have front : (block.take 4).length = 4 := by simp [eight]
  have back : (block.drop 4).length = 4 := by simp [eight]
  have halves := k.decryptBlock_encryptBlock (wordBE (block.take 4)) (wordBE (block.drop 4))
  simp only [decryptBytes, encryptBytes_eq, List.take_left' (length_wordBytesBE _),
    List.drop_left' (length_wordBytesBE _), wordBE_wordBytesBE, halves,
    wordBytesBE_wordBE front, wordBytesBE_wordBE back, List.take_append_drop]

/-! ## Cipher-block chaining -/

section Chaining

variable (k : Schedule)

theorem length_cbcEncryptFrom_go :
    ∀ (n : Nat) (previous rest : Bytes), 8 * n ≤ rest.length →
      (cbcEncryptFrom.go k n previous rest).length = rest.length
  | 0, _, _, _ => rfl
  | n + 1, previous, rest, enough => by
    have tail := length_cbcEncryptFrom_go n
      (encryptBytes k (xorBytes (rest.take 8) previous)) (rest.drop 8)
      (by simp only [List.length_drop]; omega)
    simp only [cbcEncryptFrom.go, List.length_append, length_encryptBytes, tail,
      List.length_drop]
    omega

/-- Chaining back undoes chaining forward, block by block: each ciphertext block both
decrypts to its plain block masked with the one before and masks the next. -/
theorem cbcDecryptFrom_go_cbcEncryptFrom_go :
    ∀ (n : Nat) (previous rest : Bytes), previous.length = 8 → 8 * n ≤ rest.length →
      cbcDecryptFrom.go k n previous (cbcEncryptFrom.go k n previous rest) = rest
  | 0, _, _, _, _ => rfl
  | n + 1, previous, rest, oneBlock, enough => by
    have masked : (xorBytes (rest.take 8) previous).length = 8 := by
      simp only [length_xorBytes, List.length_take, oneBlock]
      omega
    have tail := cbcDecryptFrom_go_cbcEncryptFrom_go n
      (encryptBytes k (xorBytes (rest.take 8) previous)) (rest.drop 8)
      (length_encryptBytes k _) (by simp only [List.length_drop]; omega)
    simp only [cbcEncryptFrom.go, cbcDecryptFrom.go,
      List.take_left' (length_encryptBytes k _), List.drop_left' (length_encryptBytes k _),
      decryptBytes_encryptBytes k masked, tail]
    rw [xorBytes_xorBytes_cancel (by simp only [List.length_take, oneBlock]; omega),
      List.take_append_drop]

theorem length_cbcEncrypt (iv data : Bytes) : (cbcEncrypt k iv data).length = data.length :=
  length_cbcEncryptFrom_go k _ iv data (Nat.mul_div_le data.length 8)

/-- CBC decryption inverts CBC encryption under the same key schedule and an initial
vector of one block, for data of every length. -/
theorem cbcDecrypt_cbcEncrypt {iv : Bytes} (oneBlock : iv.length = 8) (data : Bytes) :
    cbcDecrypt k iv (cbcEncrypt k iv data) = data := by
  have blocks := cbcDecryptFrom_go_cbcEncryptFrom_go k (data.length / 8) iv data oneBlock
    (Nat.mul_div_le data.length 8)
  rw [cbcDecrypt, cbcDecryptFrom, length_cbcEncrypt]
  exact blocks

end Chaining

end MusicProviders.Blowfish

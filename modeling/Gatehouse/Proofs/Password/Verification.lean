import Gatehouse.Account.Secret
import Gatehouse.Proofs.Crypto.Bcrypt
import Gatehouse.Proofs.Password
import Gatehouse.Proofs.Text.Utf8

/-!
# What opens a hash

A hash text is opened by the passwords under which the digest in it is computed once more. These are the ones
with the same first 72 bytes, and those that go on behind a zero character and spell the same endless key.
-/

namespace Gatehouse.Password

/-! ## What a hash text says -/

def Recipe.head (r : Recipe) : List Char :=
  ['$', '2', r.variant, '$', Char.ofNat (48 + r.cost / 10), Char.ofNat (48 + r.cost % 10), '$'] ++ encode r.salt

def Recipe.digest (r : Recipe) (password : String) : List UInt8 :=
  Bcrypt.digest (Bcrypt.keyWords (keyBytes password)) r.salt r.cost

theorem cook_eq (r : Recipe) (password : String) : cook r password = r.head ++ encode (r.digest password) := rfl

theorem length_of_mapM {α β : Type} {f : α → Option β} {xs : List α} {ys : List β} (h : xs.mapM f = some ys) :
    ys.length = xs.length := by
  induction xs generalizing ys with
  | nil =>
    cases h
    rfl
  | cons x xs ih =>
    rw [List.mapM_cons] at h
    obtain ⟨y, -, hrest⟩ := Option.bind_eq_some_iff.mp h
    obtain ⟨zs, hzs, hys⟩ := Option.bind_eq_some_iff.mp hrest
    cases hys
    rw [List.length_cons, List.length_cons, ih hzs]

/-- A recipe that is read off a text is one that a text can show. -/
theorem isShown_of_recipe? {text : List Char} {r : Recipe} (h : recipe? text = some r) : r.IsShown := by
  unfold recipe? at h
  split at h
  · rename_i variant tens ones body
    split at h
    · cases h
    rename_i hmarks
    simp only at h
    split at h
    · cases h
    rename_i hranges
    obtain ⟨digits, hdigits, rfl⟩ := Option.map_eq_some_iff.mp h
    simp only [Bool.or_eq_true, Bool.not_eq_true', decide_eq_true_eq, bne_iff_ne, not_or, not_lt] at hmarks hranges
    obtain ⟨⟨hcheap, hdear⟩, hbody⟩ := hranges
    have hlength := length_of_mapM hdigits
    refine ⟨by simpa using hmarks.1.1, hcheap, Nat.lt_succ_of_le hdear, ?_⟩
    rw [Base64.length_ofDigits, hlength, List.length_take]
    omega
  · cases h

theorem verify_iff (password hashText : String) : verify password hashText = true ↔
    ∃ r, recipe? hashText.toList = some r ∧ r.IsShown ∧
      hashText.toList = r.head ++ encode (r.digest password) := by
  unfold verify
  cases hrecipe : recipe? hashText.toList with
  | none => simp
  | some r =>
    simp only [beq_iff_eq, Option.some.injEq, exists_eq_left']
    rw [← cook_eq]
    constructor
    · intro h
      exact ⟨isShown_of_recipe? hrecipe, h.symm⟩
    · intro h
      exact h.2.symm

/-! ## Passwords that open a hash -/

def counted (password : String) : List UInt8 := (Utf8.encode password).take 72

theorem keyBytes_eq (password : String) : keyBytes password = counted password ++ [0] := rfl

theorem length_counted (password : String) : (counted password).length ≤ 72 := List.length_take_le 72 _

/-- **Hashes open to their passwords.** Whatever the salt is, a hash opens to all that begins like its password, and
any text opens to a password exactly if it is the hash text that its own variant, cost and salt give for the
password. A password without bytes opens nothing. -/
theorem hashes_recomputed :
    (∀ salt : List UInt8, salt.length = 16 → ∀ p q : String,
      (Utf8.encode q).take 72 = (Utf8.encode p).take 72 → verify q (hash salt p) = true) ∧
    (∀ q hashText : String, verify q hashText = true ↔ ∃ r, recipe? hashText.toList = some r ∧ r.IsShown ∧
      hashText.toList = r.head ++ encode (r.digest q)) ∧
    ∀ (q : RawText) (provider : Provider), Secret.opens q (some provider) = true ↔
      ∃ plain hashText, q = .whole plain ∧ provider.passwordHash = some hashText ∧
        verify plain hashText = true := by
  refine ⟨?_, verify_iff, ?_⟩
  · intro salt hsalt p q hsame
    apply verify_hash hsalt
    rw [keyBytes_eq, keyBytes_eq, counted, counted, hsame]
  · intro q provider
    cases q with
    | torn codes => simp [Secret.opens, RawText.whole?]
    | whole plain => cases hhash : provider.passwordHash <;> simp [Secret.opens, RawText.whole?, hhash]

/-- The cut after 72 bytes goes through the last letter, and the two letters begin alike. -/
theorem cut_letter_opens_hash :
    let p := String.ofList (List.replicate 71 'a' ++ ['é', '\x00'])
    let q := String.ofList (List.replicate 71 'a' ++ ['è'])
    (countedSalt 7).length = 16 ∧ (Utf8.encode q).take 72 = (Utf8.encode p).take 72 ∧
      verify q (hash (countedSalt 7) p) = true := by
  intro p q
  have hsame : (Utf8.encode q).take 72 = (Utf8.encode p).take 72 := by
    simp only [p, q, Utf8.encode_ofList]
    decide
  exact ⟨length_countedSalt 7, hsame, hashes_recomputed.1 _ (length_countedSalt 7) p q hsame⟩

/-! ## Passwords that open the hash of another -/

def Collide (salt : List UInt8) (p q : String) : Prop :=
  Bcrypt.keyWords (keyBytes p) ≠ Bcrypt.keyWords (keyBytes q) ∧
    Bcrypt.digest (Bcrypt.keyWords (keyBytes q)) salt cost = Bcrypt.digest (Bcrypt.keyWords (keyBytes p)) salt cost

/-- The second password begins with the first and a zero, and goes on so that its endless repetition is the same
in 72 bytes. -/
def Echoes (p q : String) : Prop :=
  keyBytes p <+: counted q ∧ ∀ i < 72, Bcrypt.cyclicByte (keyBytes q) i = Bcrypt.cyclicByte (keyBytes p) i

theorem keyWords_eq_iff_echoes (p q : String) : Bcrypt.keyWords (keyBytes q) = Bcrypt.keyWords (keyBytes p) ↔
    counted q = counted p ∨ Echoes p q ∨ Echoes q p := by
  rw [Bcrypt.keyWords_eq_iff]
  have hp := length_counted p
  have hq := length_counted q
  constructor
  · intro h
    rcases Nat.lt_trichotomy (counted p).length (counted q).length with hlt | heq | hgt
    · exact .inr (.inl ⟨Bcrypt.prefix_of_alike hq hlt fun i hi => (h i hi).symm, h⟩)
    · exact .inl (Bcrypt.eq_of_alike hp heq fun i hi => (h i hi).symm).symm
    · exact .inr (.inr ⟨Bcrypt.prefix_of_alike hp hgt h, fun i hi => (h i hi).symm⟩)
  · rintro (hsame | ⟨-, h⟩ | ⟨-, h⟩) i hi
    · rw [keyBytes_eq, keyBytes_eq, hsame]
    · exact h i hi
    · exact (h i hi).symm

theorem encode_injective : Function.Injective encode := by
  intro bytes other h
  have hbytes := ofDigits_encode bytes
  rw [h, ofDigits_encode other] at hbytes
  exact (Option.some.inj hbytes).symm

theorem verify_hash_eq {salt : List UInt8} (h : salt.length = 16) (p q : String) : verify q (hash salt p) = true ↔
    Bcrypt.digest (Bcrypt.keyWords (keyBytes q)) salt cost =
      Bcrypt.digest (Bcrypt.keyWords (keyBytes p)) salt cost := by
  rw [verify, hash, String.toList_ofList, recipe?_cook (isShown_hash h)]
  simp only [beq_iff_eq, cook_eq, List.append_cancel_left_eq]
  exact encode_injective.eq_iff

/-- The same digest comes of the same key, or else of a collision. -/
theorem digest_eq_iff (salt : List UInt8) (p q : String) :
    Bcrypt.digest (Bcrypt.keyWords (keyBytes q)) salt cost =
        Bcrypt.digest (Bcrypt.keyWords (keyBytes p)) salt cost ↔
      Bcrypt.keyWords (keyBytes q) = Bcrypt.keyWords (keyBytes p) ∨ Collide salt p q := by
  constructor
  · intro h
    by_cases hkey : Bcrypt.keyWords (keyBytes q) = Bcrypt.keyWords (keyBytes p)
    · exact .inl hkey
    · exact .inr ⟨Ne.symm hkey, h⟩
  · rintro (hkey | hcollide)
    · rw [hkey]
    · exact hcollide.2

/-- An echo has a zero character where the first password ends. -/
theorem Echoes.zero {p q : String} (h : Echoes p q) : '\x00' ∈ q.toList := by
  have hcounted : (0 : UInt8) ∈ counted q := h.1.subset (by simp [keyBytes_eq])
  obtain ⟨c, hc, hzero⟩ := Utf8.exists_of_mem_encode (by decide) (List.mem_of_mem_take hcounted)
  have hchar : c = '\x00' := Char.toNat_inj.mp hzero
  exact hchar ▸ hc

/-- **What opens a hash.** The hash of a password opens to the passwords with the same first 72 bytes, to those of
which one echoes the other, and to nothing else but a collision of digests. Without zero characters there are
no echoes. -/
theorem verify_hash_iff {salt : List UInt8} (h : salt.length = 16) (p q : String) :
    (verify q (hash salt p) = true ↔
      (Utf8.encode q).take 72 = (Utf8.encode p).take 72 ∨ Echoes p q ∨ Echoes q p ∨ Collide salt p q) ∧
      (Echoes p q → '\x00' ∈ q.toList) ∧ (Echoes q p → '\x00' ∈ p.toList) := by
  refine ⟨?_, Echoes.zero, Echoes.zero⟩
  rw [verify_hash_eq h, digest_eq_iff, keyWords_eq_iff_echoes, or_assoc, or_assoc]
  rfl

/-- One other character at the end: only a collision of digests would let it pass. -/
theorem other_ending_collides :
    let salt := countedSalt 1
    salt.length = 16 ∧
      (verify "Passw0rd?" (hash salt "Passw0rd!") = true ↔ Collide salt "Passw0rd!" "Passw0rd?") := by
  intro salt
  obtain ⟨hopens, hecho, hecho'⟩ := verify_hash_iff (length_countedSalt 1) "Passw0rd!" "Passw0rd?"
  have hbytes : (Utf8.encode "Passw0rd?").take 72 ≠ (Utf8.encode "Passw0rd!").take 72 := by decide +kernel
  have hfirst : ¬ Echoes "Passw0rd!" "Passw0rd?" := fun h => absurd (hecho h) (by decide)
  have hsecond : ¬ Echoes "Passw0rd?" "Passw0rd!" := fun h => absurd (hecho' h) (by decide)
  exact ⟨length_countedSalt 1, by simpa only [hbytes, hfirst, hsecond, false_or] using hopens⟩

/-- A good password opens the hash of another one that is half as long. -/
theorem echo_opens_hash :
    let p := "Aa1!xy"
    let q := "Aa1!xy\x00Aa1!xy"
    weakness (.whole p) = none ∧ weakness (.whole q) = none ∧
      (Utf8.encode q).take 72 ≠ (Utf8.encode p).take 72 ∧ verify q (hash (countedSalt 1) p) = true := by
  intro p q
  have hkey : Bcrypt.keyWords (keyBytes q) = Bcrypt.keyWords (keyBytes p) :=
    Bcrypt.keyWords_eq_iff.mpr (by decide +kernel)
  refine ⟨by decide +kernel, by decide +kernel, by decide +kernel, ?_⟩
  rw [verify_hash_eq (length_countedSalt 1), hkey]

end Gatehouse.Password

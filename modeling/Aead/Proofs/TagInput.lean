import Aead.Proofs.UniqueTag

/-!
# Parts followed by their lengths

The construction with 64-bit nonces authenticates associated data and body as one byte string, in
which each of them is followed by its length and nothing is padded. Either part may hold bytes that
look like a length. Read from the front the string can be cut in several ways, but read from its end
in one only: the last eight bytes are the length of what stands before them, and what is left after
that part ends with a length again.

Results:

* `Bytes.splitCounted?_eq_some_iff`: the part that a text ends with, for one part.
* `ChaChaPoly.readTagInput?_eq_some_iff`: both parts, read back from what is authenticated.
* `ChaChaPoly.plainTagInput_zeros`: why the lengths are bounded.
* `ChaChaPoly.plainTagInput_imitated`: where two strings differ if bytes of the one imitate a length
  of the other.
* `ChaChaPoly.plainTagInput_unambiguous`: what is authenticated determines associated data and body.
-/

namespace Aead

/-! ## The last part of a text -/

namespace Bytes

/-- Eight bytes hold the numbers below `2 ^ 64`. -/
theorem limit_eight : limit 8 = 2 ^ 64 := rfl

/-- A part and its length, in eight bytes. -/
def counted (part : Bytes) : Bytes :=
  part ++ le 8 part.length

/-- What stands before the last part of a text, and that part, as long as the last eight bytes
say. -/
def splitCounted? (text : Bytes) : Option (Bytes × Bytes) :=
  let parts := text.take (text.length - 8)
  let count := leValue (text.drop (text.length - 8))
  let start := parts.length - count
  if 8 ≤ text.length ∧ count ≤ parts.length then
    some (parts.take start, parts.drop start)
  else
    none

theorem splitCounted?_append_counted (front : Bytes) {part : Bytes} (h : part.length < 2 ^ 64) :
    splitCounted? (front ++ part.counted) = some (front, part) := by
  have assoc : front ++ part.counted = front ++ part ++ le 8 part.length :=
    (List.append_assoc front part _).symm
  have length : (front ++ part.counted).length = (front ++ part).length + 8 := by
    rw [assoc, List.length_append, length_le]
  have before : (front ++ part.counted).length - 8 = (front ++ part).length := by
    rw [length, Nat.add_sub_cancel]
  have parts : (front ++ part.counted).take (front ++ part).length = front ++ part := by
    rw [assoc, List.take_left]
  have count : leValue ((front ++ part.counted).drop (front ++ part).length) = part.length := by
    rw [assoc, List.drop_left, leValue_le, limit_eight, Nat.mod_eq_of_lt h]
  have start : (front ++ part).length - part.length = front.length := by
    rw [List.length_append, Nat.add_sub_cancel]
  have fits : 8 ≤ (front ++ part.counted).length ∧ part.length ≤ (front ++ part).length := by
    rw [length, List.length_append]
    omega
  unfold splitCounted?
  dsimp only
  rw [before, parts, count, start, if_pos fits, List.take_left, List.drop_left]

theorem eq_append_counted {text front part : Bytes} (h : splitCounted? text = some (front, part)) :
    part.length < 2 ^ 64 ∧ text = front ++ part.counted := by
  unfold splitCounted? at h
  dsimp only at h
  split_ifs at h with fits
  obtain ⟨long, within⟩ := fits
  rw [Option.some.injEq, Prod.mk.injEq] at h
  obtain ⟨hfront, hpart⟩ := h
  have width : (text.drop (text.length - 8)).length = 8 := by
    rw [List.length_drop]
    omega
  have length : part.length = leValue (text.drop (text.length - 8)) := by
    rw [← hpart, List.length_drop]
    omega
  -- The last eight bytes are the length of the part, written out: their value is, and it fits.
  have ending := le_leValue (text.drop (text.length - 8))
  have bound := leValue_lt (text.drop (text.length - 8))
  rw [width, ← length] at ending bound
  have parts : text.take (text.length - 8) = front ++ part := by
    rw [← hfront, ← hpart, List.take_append_drop]
  constructor
  · rwa [limit_eight] at bound
  · calc
      text = text.take (text.length - 8) ++ text.drop (text.length - 8) :=
        (List.take_append_drop _ text).symm
      _ = front ++ part ++ le 8 part.length := by rw [parts, ← ending]
      _ = front ++ part.counted := List.append_assoc ..

/-- The part that a text ends with: it is found exactly where a part was put with its length. -/
theorem splitCounted?_eq_some_iff {text front part : Bytes} :
    splitCounted? text = some (front, part) ↔
      part.length < 2 ^ 64 ∧ text = front ++ part.counted := by
  constructor
  · exact eq_append_counted
  · rintro ⟨h, rfl⟩
    exact splitCounted?_append_counted front h

end Bytes

/-! ## Associated data and body -/

namespace ChaChaPoly

variable {ad ad' body body' : Bytes}

theorem plainTagInput_eq (ad body : Bytes) :
    plainTagInput ad body = ([] ++ ad.counted) ++ body.counted := by
  unfold plainTagInput Bytes.counted
  rw [List.nil_append, List.append_assoc (ad ++ _)]

/-- Reads associated data and body from the end of what is authenticated. -/
def readTagInput? (input : Bytes) : Option (Bytes × Bytes) := do
  let (front, body) ← input.splitCounted?
  let (rest, ad) ← front.splitCounted?
  if rest = [] then some (ad, body) else none

/-- Reading gives associated data and body exactly when they are what is authenticated, and short
enough for their lengths to be written. -/
theorem readTagInput?_eq_some_iff {input : Bytes} :
    readTagInput? input = some (ad, body) ↔
      ad.length < 2 ^ 64 ∧ body.length < 2 ^ 64 ∧ input = plainTagInput ad body := by
  rw [plainTagInput_eq]
  constructor
  · intro h
    unfold readTagInput? at h
    obtain ⟨⟨front, body⟩, last, h⟩ := Option.bind_eq_some_iff.1 h
    obtain ⟨⟨rest, ad⟩, first, h⟩ := Option.bind_eq_some_iff.1 h
    dsimp only at h first
    split_ifs at h with nothing_left
    cases h
    subst nothing_left
    obtain ⟨hbody, rfl⟩ := Bytes.splitCounted?_eq_some_iff.1 last
    obtain ⟨had, rfl⟩ := Bytes.splitCounted?_eq_some_iff.1 first
    exact ⟨had, hbody, rfl⟩
  · rintro ⟨had, hbody, rfl⟩
    refine Option.bind_eq_some_iff.2 ⟨_, Bytes.splitCounted?_eq_some_iff.2 ⟨hbody, rfl⟩, ?_⟩
    refine Option.bind_eq_some_iff.2 ⟨_, Bytes.splitCounted?_eq_some_iff.2 ⟨had, rfl⟩, ?_⟩
    exact if_pos rfl

example : readTagInput? (plainTagInput [8, 0, 0, 0, 0, 0, 0, 0] [1]) =
    some ([8, 0, 0, 0, 0, 0, 0, 0], [1]) := by
  decide

/-- Two pairs that are authenticated alike are equal. -/
theorem plainTagInput_inj (had : ad.length < 2 ^ 64) (hbody : body.length < 2 ^ 64)
    (had' : ad'.length < 2 ^ 64) (hbody' : body'.length < 2 ^ 64)
    (h : plainTagInput ad body = plainTagInput ad' body') : ad = ad' ∧ body = body' := by
  have read := readTagInput?_eq_some_iff.2 ⟨had, hbody, rfl⟩
  have read' := readTagInput?_eq_some_iff.2 ⟨had', hbody', rfl⟩
  rw [h, read', Option.some.injEq, Prod.mk.injEq] at read
  exact ⟨read.1.symm, read.2.symm⟩

/-- The bound on the lengths cannot be dropped. Lengths are written modulo `2 ^ 64`, so as many
zeros may stand on either side. -/
theorem plainTagInput_zeros {n : Nat} (h : 2 ^ 64 ∣ n) :
    plainTagInput (List.replicate n 0) [] = plainTagInput [] (List.replicate n 0) := by
  have length : Bytes.le 8 n = List.replicate 8 0 := by
    rw [← Bytes.le_mod, Bytes.limit_eight, Nat.mod_eq_zero_of_dvd h]
    rfl
  have length_nil : Bytes.le 8 ([] : Bytes).length = List.replicate 8 0 := rfl
  unfold plainTagInput
  rw [List.length_replicate, length, length_nil, List.append_nil, List.nil_append]
  simp only [List.replicate_append_replicate, Nat.add_comm n 8]

/-- Bytes between a true length and an imitated one may be read as part of either side. If the
imitation is perfect, all bytes but the last length agree. -/
theorem plainTagInput_imitated (front middle back : Bytes) :
    let left := front ++ Bytes.le 8 front.length ++ middle
    let right := middle ++ Bytes.le 8 left.length ++ back
    ∃ shared, plainTagInput front right = shared ++ Bytes.le 8 right.length ∧
      plainTagInput left back = shared ++ Bytes.le 8 back.length := by
  intro left right
  have regrouped : front ++ Bytes.le 8 front.length ++ right =
      left ++ Bytes.le 8 left.length ++ back := by
    simp only [left, right, List.append_assoc]
  refine ⟨left ++ Bytes.le 8 left.length ++ back, ?_, rfl⟩
  unfold plainTagInput
  rw [regrouped]

end ChaChaPoly

/-! ## Decryption -/

/-- Decryption accepts a body exactly under its tag. -/
theorem exists_decryptDetached_iff {algorithm : Algorithm} {nonce key : Bytes}
    {cipher : algorithm.construction.Cipher}
    (hnonce : nonce.length = algorithm.descriptor.nonceLength)
    (hcipher : algorithm.cipher? (.raw key) = some cipher) (ad : AssociatedData)
    (body mac : Bytes) :
    (∃ message, Family.decryptDetached algorithm body mac ad nonce key = .ok (some message)) ↔
      mac = ((algorithm.construction.session cipher nonce).tag ad.bytes body).bytes := by
  by_cases hmac : mac.length = tagLength
  · have decrypted : Family.decryptDetached algorithm body mac ad nonce key =
        .ok ((algorithm.construction.session cipher nonce).opened? ad.bytes body mac) :=
      Provider.answer_decryptDetached hnonce hcipher body hmac ad
    simp only [decrypted, Except.ok.injEq]
    rw [← Option.ne_none_iff_exists', Ne, Session.opened?_eq_none_iff, not_not]
  · rw [decryptDetached_of_length_ne algorithm ad nonce body hmac]
    constructor
    · rintro ⟨message, h⟩
      cases h
    · rintro rfl
      exact absurd (Buffer.length_bytes _) hmac

namespace ChaChaPoly

/-- With a 64-bit nonce the tag is the authenticator's value at both parts, each followed by its
length, under half of the first block. -/
theorem exists_decryptDetached_shortNonce_iff {key nonce : Bytes} (hkey : key.length = 32)
    (hnonce : nonce.length = 8) (ad : AssociatedData) (body mac : Bytes) :
    (∃ message, Family.decryptDetached .chacha20Poly1305 body mac ad nonce key =
        .ok (some message)) ↔
      mac = (Poly1305.tag (authenticatorKey (shortNonceBlock ⟨key, hkey⟩ nonce 0))
        (plainTagInput ad.bytes body)).bytes := by
  have hcipher : Algorithm.chacha20Poly1305.cipher? (.raw key) = some ⟨key, hkey⟩ :=
    Buffer.ofBytes?_eq_some_iff.2 rfl
  exact exists_decryptDetached_iff hnonce hcipher ad body mac

/-- **One reading.** Associated data and body that are short enough for their lengths to be written
are determined by what is authenticated of them. So it changes when bytes are moved from one side to
the other, and when bytes on one side look like a length: those in `ad'` that stand where the length
of `ad` stands, or those in `body` that stand where the length of `ad'` stands. Even if the latter
are that length it changes, though only in the last length. Decryption accepts no tag but the
authenticator's value at what is authenticated. -/
theorem plainTagInput_unambiguous {ad ad' body body' : Bytes} (had : ad.length < 2 ^ 64)
    (hbody : body.length < 2 ^ 64) (had' : ad'.length < 2 ^ 64) (hbody' : body'.length < 2 ^ 64) :
    (plainTagInput ad body = plainTagInput ad' body' → ad = ad' ∧ body = body') ∧
    (∀ moved, moved ≠ [] → ad' = ad ++ moved → body = moved ++ body' →
      plainTagInput ad body ≠ plainTagInput ad' body') ∧
    (∀ middle n, ad' = ad ++ Bytes.le 8 ad.length ++ middle →
      body = middle ++ Bytes.le 8 n ++ body' →
      plainTagInput ad body ≠ plainTagInput ad' body' ∧
      (n = ad'.length → ∃ shared,
        plainTagInput ad body = shared ++ Bytes.le 8 body.length ∧
        plainTagInput ad' body' = shared ++ Bytes.le 8 body'.length)) ∧
    ∀ {key nonce : Bytes} (hkey : key.length = 32), nonce.length = 8 →
      ∀ data : AssociatedData, data.bytes = ad → ∀ mac,
        (∃ message, Family.decryptDetached .chacha20Poly1305 body mac data nonce key =
            .ok (some message)) ↔
          mac = (Poly1305.tag (authenticatorKey (shortNonceBlock ⟨key, hkey⟩ nonce 0))
            (plainTagInput ad body)).bytes := by
  have determined := plainTagInput_inj had hbody had' hbody'
  refine ⟨determined, ?_, ?_, ?_⟩
  · rintro moved some_moved rfl - same
    exact some_moved (List.self_eq_append_right.1 (determined same).1)
  · rintro middle n rfl rfl
    constructor
    · -- Whatever `n` is: one side would be longer than itself.
      intro same
      have lengths := congrArg List.length (determined same).1
      simp only [List.length_append, Bytes.length_le] at lengths
      omega
    · rintro rfl
      exact plainTagInput_imitated ad middle body'
  · rintro key nonce hkey hnonce data rfl mac
    exact exists_decryptDetached_shortNonce_iff hkey hnonce data body mac

/-- A body of eight bytes that look like the length eight. Eight zeros as associated data, with no
body, are authenticated by the same bytes up to the last length; under zeros the tag of the one is
refused for the other. -/
theorem plainTagInput_unambiguous_of_eight_bytes :
    let zeros : Bytes := List.replicate 8 0
    let eight : Bytes := [8, 0, 0, 0, 0, 0, 0, 0]
    let tag : Bytes := [85, 223, 107, 230, 157, 11, 249, 63, 216, 204, 230, 72, 189, 103, 72, 165]
    let key : Bytes := List.replicate 32 0
    (∃ shared, plainTagInput [] eight = shared ++ eight ∧
      plainTagInput zeros [] = shared ++ zeros) ∧
    plainTagInput [] eight ≠ plainTagInput zeros [] ∧
    (∃ message, Family.decryptDetached .chacha20Poly1305 eight tag .absent zeros key =
      .ok (some message)) ∧
    Family.decryptDetached .chacha20Poly1305 [] tag (.present zeros) zeros key = .ok none := by
  intro zeros eight tag key
  have unambiguous := @plainTagInput_unambiguous [] zeros eight [] (by decide) (by decide)
    (by decide) (by decide)
  obtain ⟨changed, imitated⟩ := unambiguous.2.2.1 [] 8 (by decide) (by decide)
  have length_eight : Bytes.le 8 eight.length = eight := by decide
  have length_nil : Bytes.le 8 ([] : Bytes).length = zeros := by decide
  rw [length_eight, length_nil] at imitated
  refine ⟨imitated rfl, changed, ?_, by decide +kernel⟩
  exact (unambiguous.2.2.2 rfl rfl .absent rfl tag).2 (by decide +kernel)

end ChaChaPoly

end Aead

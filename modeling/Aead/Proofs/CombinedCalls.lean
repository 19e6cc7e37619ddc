import Aead.Proofs.DetachedCalls

/-!
# What a combined call leaves behind

A combined call works on the front of a buffer that may be longer than what it writes. The bytes
past that front are never touched, and the front is touched only when all sizes go together; then it
holds what the detached call leaves there. The written length is zero unless the call succeeds.

The calls are written out a second time, step by step: lengths are added and subtracted within 64
bits, and the parts of a buffer are borrowed, which is impossible for a part that reaches past the
end. They always have a result, the same as the calls themselves.

Results:

* `Buffer.overwrite_slice`, `Buffer.append_slice`: parts that were not changed leave no trace.
* `Algorithm.sealCombined?_run`, `Algorithm.openCombined?_run`: every part lies inside its buffer,
  and the length that was there before does not matter.
* `Provider.combined_calls_keep_the_rest`: the contents of the whole buffer after each call.
-/

namespace Aead

/-! ## Parts of buffers -/

namespace Buffer

variable {n j k : Nat} (b : Buffer n)

@[simp] theorem bytes_overwrite (front : Buffer k) (h : k ≤ n) :
    (b.overwrite front h).bytes = front.bytes ++ b.bytes.drop k :=
  rfl

@[simp] theorem bytes_append (c : Buffer k) : (b.append c).bytes = b.bytes ++ c.bytes :=
  rfl

/-- Writing back what is there changes nothing. -/
theorem overwrite_slice (h : 0 + k ≤ n) (h' : k ≤ n) : b.overwrite (b.slice 0 k h) h' = b := by
  rw [← bytes_inj]
  exact List.take_append_drop k b.bytes

/-- A front in two parts. -/
theorem append_slice (h : 0 + j ≤ n) (h' : j + k ≤ n) :
    (b.slice 0 j h).append (b.slice j k h') = b.slice 0 (j + k) (by omega) := by
  rw [← bytes_inj]
  exact List.take_add.symm

/-- A part of a front is that part of the buffer. -/
theorem slice_slice (h : 0 + k ≤ n) {start i : Nat} (h' : start + i ≤ k) :
    (b.slice 0 k h).slice start i h' = b.slice start i (by omega) := by
  rw [← bytes_inj]
  show ((b.bytes.take k).drop start).take i = (b.bytes.drop start).take i
  rw [List.drop_take, List.take_take, Nat.min_eq_left (by omega)]

/-- Runs a function on the first `k` bytes, in place. -/
def borrowFront? {α : Type} (k : Nat) (f : Buffer k → Option (α × Buffer k)) :
    Option (α × Buffer n) :=
  if h : k ≤ n then do
    let (result, front) ← f (b.slice 0 k (by omega))
    return (result, b.overwrite front h)
  else
    none

/-- Runs a function on the first `j` bytes and on the rest, in place. -/
def borrowSplit? {α : Type} (j : Nat)
    (f : Buffer j → Buffer (n - j) → Option (α × Buffer j × Buffer (n - j))) :
    Option (α × Buffer n) :=
  if h : j ≤ n then do
    let (result, front, rest) ← f (b.slice 0 j (by omega)) (b.slice j (n - j) (by omega))
    return (result, ⟨(front.append rest).bytes, by rw [length_bytes]; omega⟩)
  else
    none

variable {b}

theorem borrowFront?_eq {α : Type} (h : k ≤ n) (f : Buffer k → Option (α × Buffer k)) :
    b.borrowFront? k f = (f (b.slice 0 k (by omega))).map fun (result, front) =>
      (result, b.overwrite front h) := by
  unfold borrowFront?
  rw [dif_pos h, Option.map_eq_bind]
  rfl

/-- A buffer is split into parts of its length. The function takes a rest of every size, since
`n - j` is `k` only by arithmetic. -/
theorem borrowSplit?_eq {α : Type} (h : j + k = n)
    (f : {i : Nat} → Buffer j → Buffer i → Option (α × Buffer j × Buffer i)) :
    b.borrowSplit? j f =
      (f (b.slice 0 j (by omega)) (b.slice j k (by omega))).map fun (result, front, rest) =>
        (result, ⟨(front.append rest).bytes, by rw [length_bytes, h]⟩) := by
  obtain rfl : k = n - j := by omega
  unfold borrowSplit?
  rw [dif_pos (by omega), Option.map_eq_bind]
  rfl

end Buffer

/-- The first `k` bytes and the rest, if there are `k` bytes. -/
def Bytes.splitAt? (bytes : Bytes) (k : Nat) : Option (Bytes × Bytes) :=
  if k ≤ bytes.length then some (bytes.take k, bytes.drop k) else none

/-- The sum of two lengths, if it fits into 64 bits. -/
def checkedAdd (a b : Nat) : Option Nat :=
  if a + b < 2 ^ 64 then some (a + b) else none

/-- The difference of two lengths, if it is not negative. -/
def checkedSub (a b : Nat) : Option Nat :=
  if b ≤ a then some (a - b) else none

/-! ## Step by step -/

/-- The end of a combined call: the length is reported if the status is a success. -/
def reportWritten {n : Nat} (length : Nat) (call : Option (Status × Buffer n)) :
    StateT Nat Option (Status × Buffer n) := do
  let (status, out) ← call
  if status = .success then
    set length
  return (status, out)

theorem run_reportWritten {n length : Nat} {left : CombinedResult n}
    (h : left.written = if left.status = .success then length else 0) :
    (reportWritten length (some (left.status, left.out))).run 0 =
      some ((left.status, left.out), left.written) := by
  unfold reportWritten
  rw [h]
  by_cases success : left.status = .success <;> simp [success]

namespace Algorithm

variable (algorithm : Algorithm) (cipher : algorithm.construction.Cipher) {n : Nat} (out : Buffer n)

/-- The call of combined sealing, on the two parts of the front. -/
def sealParts? {j k : Nat} (message : Bytes) (ad : Option Bytes) (nonce : Bytes) (body : Buffer j)
    (mac : Buffer k) : Option (Status × Buffer j × Buffer k) := do
  let left ← algorithm.sealDetached? cipher body mac message ad nonce
  return (left.status, left.body, left.mac)

/-- The call of combined opening, on the front. -/
def openPart? {k : Nat} (body mac : Bytes) (ad : Option Bytes) (nonce : Bytes)
    (message : Buffer k) : Option (Status × Buffer k) := do
  let left ← algorithm.openDetached? cipher message body mac ad nonce
  return (left.status, left.message)

/-- Combined sealing, step by step. The state is the number of bytes that the call claims to have
written. -/
def sealCombined? (message : Bytes) (ad : Option Bytes) (nonce : Bytes) :
    StateT Nat Option (Status × Buffer n) := do
  set 0
  let some total := checkedAdd message.length algorithm.descriptor.tagLength
    | return (.failure, out)
  if n < total then
    return (.failure, out)
  reportWritten total <| out.borrowFront? total fun front =>
    front.borrowSplit? message.length (algorithm.sealParts? cipher message ad nonce)

/-- Combined opening, step by step. -/
def openCombined? (ciphertext : Bytes) (ad : Option Bytes) (nonce : Bytes) :
    StateT Nat Option (Status × Buffer n) := do
  set 0
  let some length := checkedSub ciphertext.length algorithm.descriptor.tagLength
    | return (.failure, out)
  if n < length then
    return (.failure, out)
  let (body, mac) ← ciphertext.splitAt? length
  reportWritten length <| out.borrowFront? length (algorithm.openPart? cipher body mac ad nonce)

variable (ad : Option Bytes) (nonce : Bytes)

section Seal

variable {message : Bytes}

theorem sealCombined_of_no_room (h : ¬message.length + algorithm.descriptor.tagLength ≤ n) :
    Id.run ((Provider.standard algorithm).sealCombined cipher out message ad nonce) =
      ⟨.failure, out, 0⟩ :=
  dif_neg h

/-- With room for body and tag, sealing is detached sealing into the front. -/
theorem sealCombined_of_room (h : message.length + algorithm.descriptor.tagLength ≤ n) :
    let parts := algorithm.construction.sealDetached cipher
      (out.slice 0 message.length ((Nat.zero_add _).trans_le (Nat.le_of_add_right_le h)))
      (out.slice message.length _ h) message ad nonce
    Id.run ((Provider.standard algorithm).sealCombined cipher out message ad nonce) =
      { status := parts.status
        out := out.overwrite (parts.body.append parts.mac) h
        written :=
          if parts.status = .success then message.length + algorithm.descriptor.tagLength
        else 0 } :=
  dif_pos h

theorem sealCombined_of_misfit (h : ¬(nonce.length = algorithm.construction.nonceLength ∧
      message.length + algorithm.descriptor.tagLength ≤ n)) :
    Id.run ((Provider.standard algorithm).sealCombined cipher out message ad nonce) =
      ⟨.failure, out, 0⟩ := by
  by_cases room : message.length + algorithm.descriptor.tagLength ≤ n
  · -- The detached call refuses, and its two parts are written back as they were.
    have wrong_nonce : nonce.length ≠ algorithm.construction.nonceLength := by tauto
    rw [sealCombined_of_room algorithm cipher out ad nonce room,
      Construction.sealDetached_of_misfit _ _ _ (mt And.left wrong_nonce), out.append_slice,
      out.overwrite_slice]
    rfl
  · exact sealCombined_of_no_room algorithm cipher out ad nonce room

theorem sealCombined_of_fits (h : nonce.length = algorithm.construction.nonceLength ∧
      message.length + algorithm.descriptor.tagLength ≤ n) :
    let parts := (algorithm.construction.session cipher nonce).sealed (ad.getD []) message
    let total := message.length + algorithm.descriptor.tagLength
    let left := Id.run ((Provider.standard algorithm).sealCombined cipher out message ad nonce)
    left.status = .success ∧ left.written = total ∧
      left.out.bytes = parts.ciphertext ++ parts.mac ++ out.bytes.drop total := by
  obtain ⟨hnonce, room⟩ := h
  obtain ⟨status, body, mac⟩ := algorithm.construction.sealDetached_of_fits cipher ad
    ⟨hnonce, algorithm.tagLength_descriptor, rfl⟩ (out.slice 0 message.length (by omega))
    (out.slice message.length _ room)
  rw [sealCombined_of_room algorithm cipher out ad nonce room]
  refine ⟨status, if_pos status, ?_⟩
  rw [Buffer.bytes_overwrite, Buffer.bytes_append, body, mac]

/-- The front can be borrowed and split, and is sealed into. -/
theorem sealFront?_eq (h : message.length + algorithm.descriptor.tagLength ≤ n) :
    let left := Id.run ((Provider.standard algorithm).sealCombined cipher out message ad nonce)
    (out.borrowFront? (message.length + algorithm.descriptor.tagLength) fun front =>
      front.borrowSplit? message.length (algorithm.sealParts? cipher message ad nonce)) =
      some (left.status, left.out) := by
  rw [Buffer.borrowFront?_eq h,
    Buffer.borrowSplit?_eq rfl (algorithm.sealParts? cipher message ad nonce), out.slice_slice,
    out.slice_slice, sealParts?, sealDetached?_eq_some,
    sealCombined_of_room algorithm cipher out ad nonce h]
  rfl

/-- Every part that sealing borrows lies inside its buffer. -/
theorem sealCombined?_run (hlength : message.length + algorithm.descriptor.tagLength < 2 ^ 64)
    (written : Nat) :
    let left := Id.run ((Provider.standard algorithm).sealCombined cipher out message ad nonce)
    (algorithm.sealCombined? cipher out message ad nonce).run written =
      some ((left.status, left.out), left.written) := by
  have sum : checkedAdd message.length algorithm.descriptor.tagLength =
      some (message.length + algorithm.descriptor.tagLength) := if_pos hlength
  unfold sealCombined?
  rw [StateT.run_bind, StateT.run_set, pure_bind, sum]
  dsimp only
  by_cases room : message.length + algorithm.descriptor.tagLength ≤ n
  · rw [if_neg (by omega), sealFront?_eq algorithm cipher out ad nonce room]
    refine run_reportWritten ?_
    rw [sealCombined_of_room algorithm cipher out ad nonce room]
  · rw [if_pos (by omega), sealCombined_of_no_room algorithm cipher out ad nonce room]
    rfl

end Seal

section Open

variable {ciphertext : Bytes}

theorem openCombined_of_no_room (h : ¬(algorithm.descriptor.tagLength ≤ ciphertext.length ∧
      ciphertext.length - algorithm.descriptor.tagLength ≤ n)) :
    Id.run ((Provider.standard algorithm).openCombined cipher out ciphertext ad nonce) =
      ⟨.failure, out, 0⟩ :=
  dif_neg h

/-- With a tag and room for the message, opening is detached opening into the front. -/
theorem openCombined_of_room (h : algorithm.descriptor.tagLength ≤ ciphertext.length ∧
      ciphertext.length - algorithm.descriptor.tagLength ≤ n) :
    let length := ciphertext.length - algorithm.descriptor.tagLength
    let opened := algorithm.construction.openDetached cipher
      (out.slice 0 length ((Nat.zero_add _).trans_le h.2)) (ciphertext.take length)
      (ciphertext.drop length) ad nonce
    Id.run ((Provider.standard algorithm).openCombined cipher out ciphertext ad nonce) =
      { status := opened.status
        out := out.overwrite opened.message h.2
        written := if opened.status = .success then length else 0 } :=
  dif_pos h

theorem openCombined_of_misfit (h : ¬(algorithm.descriptor.tagLength ≤ ciphertext.length ∧
      ciphertext.length - algorithm.descriptor.tagLength ≤ n ∧
      nonce.length = algorithm.construction.nonceLength)) :
    Id.run ((Provider.standard algorithm).openCombined cipher out ciphertext ad nonce) =
      ⟨.failure, out, 0⟩ := by
  by_cases room : algorithm.descriptor.tagLength ≤ ciphertext.length ∧
      ciphertext.length - algorithm.descriptor.tagLength ≤ n
  · have wrong_nonce : nonce.length ≠ algorithm.construction.nonceLength := by tauto
    rw [openCombined_of_room algorithm cipher out ad nonce room,
      Construction.openDetached_of_misfit _ _ _ (mt And.left wrong_nonce), out.overwrite_slice]
    rfl
  · exact openCombined_of_no_room algorithm cipher out ad nonce room

theorem detached_sizes (h : algorithm.descriptor.tagLength ≤ ciphertext.length) :
    let length := ciphertext.length - algorithm.descriptor.tagLength
    (ciphertext.drop length).length = tagLength ∧ length = (ciphertext.take length).length := by
  intro length
  rw [← algorithm.tagLength_descriptor, List.length_drop, List.length_take]
  omega

section Fits

variable (h : algorithm.descriptor.tagLength ≤ ciphertext.length ∧
  ciphertext.length - algorithm.descriptor.tagLength ≤ n ∧
  nonce.length = algorithm.construction.nonceLength)
include h

theorem openCombined_of_authentic :
    let session := algorithm.construction.session cipher nonce
    let length := ciphertext.length - algorithm.descriptor.tagLength
    let left := Id.run ((Provider.standard algorithm).openCombined cipher out ciphertext ad nonce)
    session.Authentic (ad.getD []) (ciphertext.take length) (ciphertext.drop length) →
      left.status = .success ∧ left.written = length ∧
        left.out.bytes = session.combine (ciphertext.take length) ++ out.bytes.drop length := by
  intro session length left authentic
  obtain ⟨tagged, room, hnonce⟩ := h
  obtain ⟨status, message⟩ := algorithm.construction.openDetached_of_authentic cipher ad
    ⟨hnonce, algorithm.detached_sizes tagged⟩ authentic (out.slice 0 length (by omega))
  unfold left
  rw [openCombined_of_room algorithm cipher out ad nonce ⟨tagged, room⟩]
  refine ⟨status, if_pos status, ?_⟩
  rw [Buffer.bytes_overwrite, message]

theorem openCombined_of_not_authentic :
    let session := algorithm.construction.session cipher nonce
    let length := ciphertext.length - algorithm.descriptor.tagLength
    let left := Id.run ((Provider.standard algorithm).openCombined cipher out ciphertext ad nonce)
    ¬session.Authentic (ad.getD []) (ciphertext.take length) (ciphertext.drop length) →
      left.status = .failure ∧ left.written = 0 ∧
        left.out.bytes = ciphertext.take length ++ out.bytes.drop length := by
  intro session length left forged
  obtain ⟨tagged, room, hnonce⟩ := h
  obtain ⟨status, message⟩ := algorithm.construction.openDetached_of_not_authentic cipher ad
    ⟨hnonce, algorithm.detached_sizes tagged⟩ forged (out.slice 0 length (by omega))
  unfold left
  rw [openCombined_of_room algorithm cipher out ad nonce ⟨tagged, room⟩]
  refine ⟨status, if_neg (status.trans_ne Status.failure_ne_success), ?_⟩
  rw [Buffer.bytes_overwrite, message]

end Fits

/-- The front can be borrowed, and is opened into. -/
theorem openFront?_eq (h : algorithm.descriptor.tagLength ≤ ciphertext.length ∧
      ciphertext.length - algorithm.descriptor.tagLength ≤ n) :
    let length := ciphertext.length - algorithm.descriptor.tagLength
    let left := Id.run ((Provider.standard algorithm).openCombined cipher out ciphertext ad nonce)
    out.borrowFront? length (algorithm.openPart? cipher (ciphertext.take length)
      (ciphertext.drop length) ad nonce) = some (left.status, left.out) := by
  dsimp only
  rw [Buffer.borrowFront?_eq h.2, openPart?, openDetached?_eq_some,
    openCombined_of_room algorithm cipher out ad nonce h]
  rfl

/-- Every part that opening takes or borrows lies inside its bytes. -/
theorem openCombined?_run (written : Nat) :
    let left := Id.run ((Provider.standard algorithm).openCombined cipher out ciphertext ad nonce)
    (algorithm.openCombined? cipher out ciphertext ad nonce).run written =
      some ((left.status, left.out), left.written) := by
  let k := algorithm.descriptor.tagLength
  unfold openCombined?
  rw [StateT.run_bind, StateT.run_set, pure_bind]
  by_cases tagged : k ≤ ciphertext.length
  · have difference : checkedSub ciphertext.length k = some (ciphertext.length - k) :=
      if_pos tagged
    rw [difference]
    dsimp only
    by_cases room : ciphertext.length - k ≤ n
    · have parted : ciphertext.splitAt? (ciphertext.length - k) =
          some (ciphertext.take (ciphertext.length - k), ciphertext.drop (ciphertext.length - k)) :=
        if_pos (Nat.sub_le _ _)
      rw [if_neg (by omega), parted]
      show (reportWritten _ (out.borrowFront? _ _)).run 0 = _
      rw [openFront?_eq algorithm cipher out ad nonce ⟨tagged, room⟩]
      refine run_reportWritten ?_
      rw [openCombined_of_room algorithm cipher out ad nonce ⟨tagged, room⟩]
    · rw [if_pos (by omega), openCombined_of_no_room algorithm cipher out ad nonce (by tauto)]
      rfl
  · have difference : checkedSub ciphertext.length k = none := if_neg tagged
    rw [difference, openCombined_of_no_room algorithm cipher out ad nonce (by tauto)]
    rfl

end Open

end Algorithm

/-! ## The four algorithms -/

namespace Provider

/-- **The rest stays.** For every algorithm, cipher, associated data and nonce, for a buffer of
every size and every content: combined sealing succeeds exactly when the nonce has its length and
the buffer has room for body and tag. Then it writes what detached sealing writes, tag after body,
and the bytes after that stay; otherwise all bytes stay and nothing is claimed to be written.
Combined opening leaves all bytes as they are without a whole tag, without room for the message or
with a nonce of a wrong length. Otherwise a tag that is not the body's puts the body into the buffer
and the body's own tag puts the message there, the one that is sealed to body and tag; the bytes
after it stay. In both directions every part that is taken or borrowed lies inside its bytes, and
the claimed length does not depend on the one before. -/
theorem combined_calls_keep_the_rest (algorithm : Algorithm) (cipher : (standard algorithm).Cipher)
    (ad : Option Bytes) (nonce : Bytes) {n : Nat} (out : Buffer n) :
    let session := algorithm.construction.session cipher nonce
    (∀ message : Bytes,
      let total := message.length + 16
      let fits := nonce.length = algorithm.descriptor.nonceLength ∧ total ≤ n
      let left := Id.run ((standard algorithm).sealCombined cipher out message ad nonce)
      (left.status = .success ↔ fits) ∧
      (fits → left.written = total ∧ ∀ (body : Buffer message.length) (mac : Buffer 16),
        let parts := Id.run ((standard algorithm).sealDetached cipher body mac message ad nonce)
        left.out.bytes = parts.body.bytes ++ parts.mac.bytes ++ out.bytes.drop total) ∧
      (¬fits → left = ⟨.failure, out, 0⟩) ∧
      (total < 2 ^ 64 → ∀ written,
        (algorithm.sealCombined? cipher out message ad nonce).run written =
          some ((left.status, left.out), left.written))) ∧
    (∀ ciphertext : Bytes,
      let length := ciphertext.length - 16
      let body := ciphertext.take length
      let mac := ciphertext.drop length
      let fits := 16 ≤ ciphertext.length ∧ length ≤ n ∧
        nonce.length = algorithm.descriptor.nonceLength
      let tag := (session.tag (ad.getD []) body).bytes
      let left := Id.run ((standard algorithm).openCombined cipher out ciphertext ad nonce)
      (¬fits → left = ⟨.failure, out, 0⟩) ∧
      (fits → mac ≠ tag → left.status = .failure ∧ left.written = 0 ∧
        left.out.bytes = body ++ out.bytes.drop length) ∧
      (fits → mac = tag → left.status = .success ∧ left.written = length ∧
        ∃ message, session.sealed (ad.getD []) message = ⟨body, mac⟩ ∧
          left.out.bytes = message ++ out.bytes.drop length) ∧
      ∀ written, (algorithm.openCombined? cipher out ciphertext ad nonce).run written =
        some ((left.status, left.out), left.written)) := by
  intro session
  -- The sizes of all lemmas are those of the descriptor, as in the calls.
  have tag_length : 16 = algorithm.descriptor.tagLength := algorithm.tagLength_descriptor.symm
  rw [← algorithm.nonceLength_construction, tag_length]
  refine ⟨fun message => ?_, fun ciphertext => ?_⟩
  · intro total fits left
    have filled (h : fits) := algorithm.sealCombined_of_fits cipher out ad nonce h
    have refused (h : ¬fits) : left = ⟨.failure, out, 0⟩ :=
      algorithm.sealCombined_of_misfit cipher out ad nonce h
    refine ⟨⟨fun success => ?_, fun h => (filled h).1⟩, fun h => ⟨(filled h).2.1, ?_⟩, refused,
      fun bounded => algorithm.sealCombined?_run cipher out ad nonce bounded⟩
    · by_contra h
      rw [refused h] at success
      exact Status.failure_ne_success success
    · intro body mac parts
      obtain ⟨-, body_eq, mac_eq⟩ := algorithm.construction.sealDetached_of_fits cipher ad
        ⟨h.1, algorithm.tagLength_descriptor, rfl⟩ body mac
      have parts_eq : parts.body.bytes ++ parts.mac.bytes = _ ++ _ :=
        congrArg₂ (· ++ ·) body_eq mac_eq
      rw [parts_eq]
      exact (filled h).2.2
  · intro length body mac fits tag left
    refine ⟨fun h => algorithm.openCombined_of_misfit cipher out ad nonce h, fun h forged => ?_,
      fun h authentic => ?_, algorithm.openCombined?_run cipher out ad nonce⟩
    · exact algorithm.openCombined_of_not_authentic cipher out ad nonce h forged.symm
    · obtain ⟨status, written, opened⟩ :=
        algorithm.openCombined_of_authentic cipher out ad nonce h authentic.symm
      have own : session.opened? (ad.getD []) body mac = some (session.combine body) :=
        if_pos authentic.symm
      exact ⟨status, written, session.combine body, session.opened?_eq_some_iff.1 own, opened⟩

/-- A key of zeros, and buffers of nines: four bytes are sealed into the first 20 of 22, a buffer of
19 is refused, and a forged tag leaves the body in the first four. -/
theorem combined_calls_keep_the_rest_of_four_bytes :
    let primitive := standard .chacha20Poly1305
    let key : Buffer 32 := Buffer.zeros 32
    let nonce : Bytes := List.replicate 8 0
    let message : Bytes := [116, 101, 115, 116]
    let body : Bytes := [235, 98, 148, 202]
    let mac : Bytes := [227, 78, 66, 144, 62, 233, 41, 94, 5, 71, 41, 24, 71, 160, 250, 189]
    let forged : Bytes := [226, 78, 66, 144, 62, 233, 41, 94, 5, 71, 41, 24, 71, 160, 250, 189]
    let wide : Buffer 22 := Buffer.filled 22 9
    let narrow : Buffer 19 := Buffer.filled 19 9
    (Id.run (primitive.sealCombined key wide message none nonce)).out.bytes =
        body ++ mac ++ [9, 9] ∧
      Id.run (primitive.sealCombined key narrow message none nonce) = ⟨.failure, narrow, 0⟩ ∧
      (Id.run (primitive.openCombined key wide (body ++ forged) none nonce)).out.bytes =
        body ++ List.replicate 18 9 := by
  intro primitive key nonce message body mac forged wide narrow
  obtain ⟨seals, opens⟩ := combined_calls_keep_the_rest .chacha20Poly1305 key none nonce wide
  obtain ⟨seals_narrow, -⟩ := combined_calls_keep_the_rest .chacha20Poly1305 key none nonce narrow
  have room : nonce.length = 8 ∧ message.length + 16 ≤ 22 := by decide
  have no_room : ¬(nonce.length = 8 ∧ message.length + 16 ≤ 19) := by decide
  have fits : 16 ≤ (body ++ forged).length ∧ (body ++ forged).length - 16 ≤ 22 ∧
      nonce.length = 8 := by
    decide
  have wrong : forged ≠ ((ChaChaPoly.shortNonce.session key nonce).tag [] body).bytes := by
    decide +kernel
  let parts : SealResult 4 16 :=
    Id.run (primitive.sealDetached key (Buffer.zeros 4) (Buffer.zeros 16) message none nonce)
  have computed : parts.body.bytes ++ parts.mac.bytes = body ++ mac := by decide +kernel
  obtain ⟨-, written, -⟩ := seals message
  obtain ⟨-, -, refused, -⟩ := seals_narrow message
  obtain ⟨-, undecrypted, -⟩ := opens (body ++ forged)
  refine ⟨?_, refused no_room, (undecrypted fits wrong).2.2⟩
  exact ((written room).2 (Buffer.zeros 4) (Buffer.zeros 16)).trans
    (congrArg (· ++ [9, 9]) computed)

end Provider

end Aead

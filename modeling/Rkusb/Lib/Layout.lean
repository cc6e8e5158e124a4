/-
**Fields of a byte string, and transformations chunk by chunk.**

`field bytes offset count` reads a field and `copyAt bytes offset source` overwrites one. `mapChunks`
transforms every whole chunk of a byte string, and `applyKeystream` adds a keystream to one.
-/

import Rkusb.Lib.Bytes

namespace Bytes

variable {α : Type}

/-! ### Fields -/

/-- The `count` items from `offset` on. -/
def field (bytes : List α) (offset count : Nat) : List α := (bytes.drop offset).take count

/-- The list with its items from `offset` on overwritten. -/
def copyAt (bytes : List α) (offset : Nat) (source : List α) : List α :=
  bytes.take offset ++ source ++ bytes.drop (offset + source.length)

theorem length_field {bytes : List α} {offset count : Nat} (fits : offset + count ≤ bytes.length) :
    (field bytes offset count).length = count := by
  rw [field, List.length_take, List.length_drop]
  omega

@[simp] theorem field_all (bytes : List α) : field bytes 0 bytes.length = bytes :=
  List.take_length

theorem field_append_left {first : List α} (second : List α) {offset count : Nat}
    (fits : offset + count ≤ first.length) :
    field (first ++ second) offset count = field first offset count := by
  rw [field, field, List.drop_append_of_le_length (by omega),
    List.take_append_of_le_length (by rw [List.length_drop]; omega)]

theorem field_append_right {first : List α} (second : List α) {offset count : Nat}
    (past : first.length ≤ offset) :
    field (first ++ second) offset count = field second (offset - first.length) count := by
  rw [field, List.drop_append, List.drop_of_length_le past, List.nil_append, field]

/-- A field in front of a cut. -/
theorem field_take {bytes : List α} {cut offset count : Nat} (before : offset + count ≤ cut) :
    field (bytes.take cut) offset count = field bytes offset count := by
  rw [field, field, List.drop_take, List.take_take, Nat.min_eq_left (by omega)]

/-- A field of a field. -/
theorem field_field {bytes : List α} {offset count inner width : Nat} (inside : inner + width ≤ count) :
    field (field bytes offset count) inner width = field bytes (offset + inner) width := by
  show field ((bytes.drop offset).take count) inner width = _
  rw [field_take inside, field, field, List.drop_drop]

/-- The first of the pieces of a size. -/
theorem field_append_zero {size : Nat} {first : List α} (rest : List α)
    (whole : first.length = size) : field (first ++ rest) (size * 0) size = first := by
  subst whole
  rw [Nat.mul_zero, field_append_left _ (Nat.zero_add _).le, field_all]

/-- The next ones are the pieces of the rest. -/
theorem field_append_succ {size : Nat} {first : List α} (rest : List α) (index : Nat)
    (whole : first.length = size) :
    field (first ++ rest) (size * (index + 1)) size = field rest (size * index) size := by
  rw [field_append_right _ (by rw [whole, Nat.mul_succ]; omega), whole, Nat.mul_succ,
    Nat.add_sub_cancel]

/-- The field that was overwritten. -/
theorem field_copyAt_self {bytes source : List α} {offset count : Nat}
    (fits : offset ≤ bytes.length) (same : source.length = count) :
    field (copyAt bytes offset source) offset count = source := by
  have start : (bytes.take offset).length = offset := List.length_take_of_le fits
  subst same
  rw [copyAt, List.append_assoc, field_append_right _ start.le, start, Nat.sub_self,
    field_append_left _ (Nat.zero_add _).le, field_all]

/-- A field beside the one that was overwritten. -/
theorem field_copyAt_of_disjoint {bytes source : List α} {offset at_ count : Nat}
    (fits : offset + source.length ≤ bytes.length)
    (disjoint : at_ + count ≤ offset ∨ offset + source.length ≤ at_) :
    field (copyAt bytes offset source) at_ count = field bytes at_ count := by
  have start : (bytes.take offset).length = offset := List.length_take_of_le (by omega)
  rcases disjoint with before | after
  · rw [copyAt, List.append_assoc, field_append_left _ (by omega)]
    conv_rhs => rw [← List.take_append_drop offset bytes]
    rw [field_append_left _ (by omega)]
  · have width : (bytes.take offset ++ source).length = offset + source.length := by
      rw [List.length_append, start]
    rw [copyAt, field_append_right _ (by omega), width, field, List.drop_drop,
      Nat.add_sub_cancel' after, field]

/-- The fields of a size, put together, are the bytes they were taken from. -/
theorem flatMap_field (bytes : List α) (size count : Nat) :
    (List.range count).flatMap (fun index => field bytes (size * index) size) =
      bytes.take (size * count) := by
  induction count with
  | zero => rfl
  | succ count ih =>
    rw [List.range_succ, List.flatMap_append, ih, List.flatMap_singleton, Nat.mul_succ, field,
      List.take_add]

/-! ### Chunks -/

/-- A bound that is large enough does not matter. -/
theorem chunksWithin_enough {size : Nat} (positive : 0 < size) {fuel fuel' : Nat} {data : List α}
    (enough : data.length ≤ fuel) (enough' : data.length ≤ fuel') :
    chunksWithin size fuel data = chunksWithin size fuel' data := by
  induction fuel generalizing fuel' data with
  | zero =>
    obtain rfl := List.length_eq_zero_iff.mp (Nat.le_zero.mp enough)
    cases fuel' <;> rfl
  | succ fuel ih =>
    cases data with
    | nil => cases fuel' <;> rfl
    | cons item rest =>
      cases fuel' with
      | zero => exact absurd enough' (Nat.not_succ_le_zero _)
      | succ fuel' =>
        have shorter : ((item :: rest).drop size).length ≤ rest.length := by
          rw [List.length_drop, List.length_cons]
          omega
        rw [chunksWithin, chunksWithin, ih (shorter.trans (Nat.le_of_succ_le_succ enough))
          (shorter.trans (Nat.le_of_succ_le_succ enough'))]

/-- The first chunk. -/
theorem chunks_append {size : Nat} (positive : 0 < size) {first : List α} (rest : List α)
    (whole : first.length = size) :
    chunks size (first ++ rest) = first :: chunks size rest := by
  cases first with
  | nil => exact absurd whole (Nat.ne_of_lt positive)
  | cons item items =>
    show ((item :: items) ++ rest).take size ::
      chunksWithin size (items ++ rest).length (((item :: items) ++ rest).drop size) = _
    rw [List.take_left' whole, List.drop_left' whole]
    exact congrArg _ (chunksWithin_enough positive (by rw [List.length_append]; omega) le_rfl)

/-- The whole chunks; a rest is left out. -/
def chunksExact (size : Nat) (data : List α) : List (List α) :=
  (List.range (data.length / size)).map fun index => field data (size * index) size

/-- A transformation of every whole chunk; a rest is left as it is. -/
def mapChunks (size : Nat) (transform : List α → List α) (data : List α) : List α :=
  (chunks size data).flatMap fun chunk => if chunk.length = size then transform chunk else chunk

theorem mapChunks_append {size : Nat} (positive : 0 < size) (transform : List α → List α)
    {first : List α} (rest : List α) (whole : first.length = size) :
    mapChunks size transform (first ++ rest) = transform first ++ mapChunks size transform rest := by
  rw [mapChunks, chunks_append positive rest whole, List.flatMap_cons, if_pos whole, mapChunks]

/-- Data of whole chunks are transformed on their own. -/
theorem mapChunks_append_mul {size : Nat} (positive : 0 < size) (transform : List α → List α)
    {first : List α} (rest : List α) {count : Nat} (whole : first.length = size * count) :
    mapChunks size transform (first ++ rest) =
      mapChunks size transform first ++ mapChunks size transform rest := by
  induction count generalizing first with
  | zero =>
    obtain rfl := List.length_eq_zero_iff.mp whole
    rfl
  | succ count ih =>
    rw [Nat.mul_succ] at whole
    have head : (first.take size).length = size := List.length_take_of_le (by omega)
    rw [← List.take_append_drop size first, List.append_assoc,
      mapChunks_append positive _ _ head, mapChunks_append positive _ _ head,
      ih (by rw [List.length_drop]; omega), List.append_assoc]

/-- A transformation that keeps the length of a chunk. -/
def KeepsChunk (size : Nat) (transform : List α → List α) : Prop :=
  ∀ chunk, chunk.length = size → (transform chunk).length = size

theorem length_mapChunks {size : Nat} (positive : 0 < size) {transform : List α → List α}
    (keeps : KeepsChunk size transform) {data : List α} {count : Nat}
    (whole : data.length = size * count) :
    (mapChunks size transform data).length = data.length := by
  induction count generalizing data with
  | zero =>
    obtain rfl := List.length_eq_zero_iff.mp whole
    rfl
  | succ count ih =>
    rw [Nat.mul_succ] at whole
    have head : (data.take size).length = size := List.length_take_of_le (by omega)
    conv_lhs => rw [← List.take_append_drop size data]
    rw [mapChunks_append positive _ _ head, List.length_append, keeps _ head,
      ih (by rw [List.length_drop]; omega), List.length_drop]
    omega

/-- **A chunk of the transformed data** is the transformed chunk. -/
theorem field_mapChunks {size : Nat} (positive : 0 < size) {transform : List α → List α}
    (keeps : KeepsChunk size transform) {data : List α} {index : Nat}
    (inside : size * (index + 1) ≤ data.length) :
    field (mapChunks size transform data) (size * index) size =
      transform (field data (size * index) size) := by
  induction index generalizing data with
  | zero =>
    have head : (data.take size).length = size := List.length_take_of_le (by omega)
    conv_lhs => rw [← List.take_append_drop size data]
    rw [mapChunks_append positive _ _ head]
    have kept := keeps _ head
    rw [Nat.mul_zero, field_append_left _ (by omega), field, List.drop_zero,
      List.take_of_length_le kept.le]
    rfl
  | succ index ih =>
    rw [Nat.mul_succ] at inside
    have head : (data.take size).length = size := List.length_take_of_le (by omega)
    have kept := keeps _ head
    conv_lhs => rw [← List.take_append_drop size data]
    rw [mapChunks_append positive _ _ head, field_append_right _ (by rw [kept, Nat.mul_succ]; omega),
      kept, Nat.mul_succ, Nat.add_sub_cancel, ih (by rw [List.length_drop]; omega)]
    refine congrArg transform ?_
    rw [field, field, List.drop_drop, Nat.add_comm size]

/-! ### Keystreams -/

/-- The data with a keystream added. -/
def applyKeystream (stream : Nat → UInt8) (data : List UInt8) : List UInt8 :=
  data.mapIdx fun index byte => byte ^^^ stream index

@[simp] theorem length_applyKeystream (stream : Nat → UInt8) (data : List UInt8) :
    (applyKeystream stream data).length = data.length :=
  List.length_mapIdx

/-- **Added twice, a keystream is gone.** -/
@[simp] theorem applyKeystream_twice (stream : Nat → UInt8) (data : List UInt8) :
    applyKeystream stream (applyKeystream stream data) = data := by
  refine List.ext_getElem (by simp) fun index _ inside => ?_
  simp only [applyKeystream, List.getElem_mapIdx]
  rw [UInt8.xor_assoc, UInt8.xor_self, UInt8.xor_zero]

theorem applyKeystream_keepsChunk (size : Nat) (stream : Nat → UInt8) :
    KeepsChunk size (applyKeystream stream) := by
  intro chunk whole
  rw [length_applyKeystream, whole]

/-- Behind the first part the keystream goes on. -/
theorem applyKeystream_append (stream : Nat → UInt8) (first rest : List UInt8) :
    applyKeystream stream (first ++ rest) =
      applyKeystream stream first ++
        applyKeystream (fun index => stream (index + first.length)) rest :=
  List.mapIdx_append

/-- Only the keystream under the data matters. -/
theorem applyKeystream_congr {stream stream' : Nat → UInt8} {data : List UInt8}
    (same : ∀ index, index < data.length → stream index = stream' index) :
    applyKeystream stream data = applyKeystream stream' data := by
  refine List.ext_getElem (by simp) fun index inside _ => ?_
  rw [length_applyKeystream] at inside
  simp only [applyKeystream, List.getElem_mapIdx]
  rw [same index inside]

/-- The data tell apart the keystreams under them. -/
theorem applyKeystream_eq_iff {stream stream' : Nat → UInt8} {data : List UInt8} :
    applyKeystream stream data = applyKeystream stream' data ↔
      ∀ index, index < data.length → stream index = stream' index := by
  refine ⟨fun same index inside => ?_, applyKeystream_congr⟩
  have bytes := congrArg (·[index]?) same
  simp only [applyKeystream, List.getElem?_mapIdx, List.getElem?_eq_getElem inside, Option.map_some,
    Option.some_inj] at bytes
  exact (UInt8.xor_right_inj _).mp bytes

/-- **A keystream that every chunk restarts** is a periodic one. -/
theorem mapChunks_applyKeystream {size : Nat} (positive : 0 < size) (stream : Nat → UInt8)
    {data : List UInt8} {count : Nat} (whole : data.length = size * count) :
    mapChunks size (applyKeystream stream) data =
      applyKeystream (fun index => stream (index % size)) data := by
  induction count generalizing data with
  | zero =>
    obtain rfl := List.length_eq_zero_iff.mp whole
    rfl
  | succ count ih =>
    rw [Nat.mul_succ] at whole
    have head : (data.take size).length = size := List.length_take_of_le (by omega)
    rw [← List.take_append_drop size data, mapChunks_append positive _ _ head,
      ih (by rw [List.length_drop]; omega), applyKeystream_append, head]
    congr 1
    · refine applyKeystream_congr fun index inside => ?_
      rw [head] at inside
      rw [Nat.mod_eq_of_lt inside]
    · refine applyKeystream_congr fun index _ => ?_
      rw [Nat.add_mod_right]

end Bytes

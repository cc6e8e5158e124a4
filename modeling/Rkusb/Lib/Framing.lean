/-
**Messages that end at a short piece.**

A message is sent in pieces of a unit, and a receiver takes a piece shorter than the unit as the end
of a message (`receive`).

* `receive_chunks`: a message whose length is a multiple of the unit does not end, and what follows
  it is taken for its rest.
* `receive_flatMap_chunks`, `length_receive_eq_iff`: the receiver recovers all messages if the length
  of none is a multiple of the unit, and else not as many.
* `getLast_chunks_short_iff`: that is, if every message ends with a short piece.
-/

import Mathlib.Algebra.BigOperators.Group.List.Basic
import Rkusb.Lib.Bytes

namespace Framing

open Bytes

variable {α : Type} {unit : Nat}

/-- What a receiver makes of a sequence of pieces, if a piece shorter than the unit ends a message:
the messages, and what it has of a message that has not ended. -/
def receive (unit : Nat) (pending : List α) : List (List α) → List (List α) × List α
  | [] => ([], pending)
  | piece :: rest =>
      if piece.length < unit then
        ((pending ++ piece) :: (receive unit [] rest).1, (receive unit [] rest).2)
      else receive unit (pending ++ piece) rest

theorem receive_chunksWithin (positive : 0 < unit) (fuel : Nat) (message pending : List α)
    (rest : List (List α)) (enough : message.length ≤ fuel) :
    receive unit pending (chunksWithin unit fuel message ++ rest) =
      if unit ∣ message.length then receive unit (pending ++ message) rest
      else ((pending ++ message) :: (receive unit [] rest).1, (receive unit [] rest).2) := by
  induction fuel generalizing message pending with
  | zero =>
    obtain rfl := List.length_eq_zero_iff.mp (Nat.le_zero.mp enough)
    rw [List.length_nil, if_pos (dvd_zero unit), List.append_nil]
    rfl
  | succ fuel ih =>
    cases message with
    | nil =>
      rw [List.length_nil, if_pos (dvd_zero unit), List.append_nil]
      rfl
    | cons item tail =>
      rw [chunksWithin, List.cons_append, receive]
      rcases Nat.lt_or_ge (item :: tail).length unit with short | long
      · -- the only piece, and it ends the message
        have none : chunksWithin unit fuel ([] : List α) = [] := by cases fuel <;> rfl
        have ends : ¬unit ∣ (item :: tail).length :=
          Nat.not_dvd_of_pos_of_lt (Nat.succ_pos _) short
        rw [List.take_of_length_le short.le, List.drop_of_length_le short.le, none, if_pos short,
          if_neg ends]
        rfl
      · -- a full piece, and the message goes on
        have full : ((item :: tail).take unit).length = unit := by
          rw [List.length_take, Nat.min_eq_left long]
        have fewer : ((item :: tail).drop unit).length ≤ fuel := by
          rw [List.length_drop]
          omega
        have dvd : unit ∣ ((item :: tail).drop unit).length ↔ unit ∣ (item :: tail).length := by
          rw [List.length_drop, Nat.dvd_sub_iff_left long dvd_rfl]
        rw [if_neg (by omega), ih _ _ fewer, List.append_assoc, List.take_append_drop,
          if_congr dvd rfl rfl]

/-- **One message**: it ends, unless its length is a multiple of the unit. -/
theorem receive_chunks (positive : 0 < unit) (message pending : List α) (rest : List (List α)) :
    receive unit pending (chunks unit message ++ rest) =
      if unit ∣ message.length then receive unit (pending ++ message) rest
      else ((pending ++ message) :: (receive unit [] rest).1, (receive unit [] rest).2) :=
  receive_chunksWithin positive _ message pending rest le_rfl

/-- As many messages are received as end. -/
theorem length_receive_flatMap_chunks (positive : 0 < unit) (messages : List (List α))
    (pending : List α) :
    (receive unit pending (messages.flatMap (chunks unit))).1.length =
      messages.countP fun message => ¬unit ∣ message.length := by
  induction messages generalizing pending with
  | nil => rfl
  | cons message rest ih =>
    rw [List.flatMap_cons, receive_chunks positive, List.countP_cons]
    by_cases whole : unit ∣ message.length
    · rw [if_pos whole, ih, if_neg (by simpa using whole), Nat.add_zero]
    · rw [if_neg whole, List.length_cons, ih, if_pos (by simpa using whole)]

/-- Messages that end are received as they are. -/
theorem receive_flatMap_chunks (positive : 0 < unit) {messages : List (List α)}
    (ends : ∀ message ∈ messages, ¬unit ∣ message.length) :
    receive unit [] (messages.flatMap (chunks unit)) = (messages, []) := by
  induction messages with
  | nil => rfl
  | cons message rest ih =>
    obtain ⟨now, later⟩ := List.forall_mem_cons.mp ends
    rw [List.flatMap_cons, receive_chunks positive, if_neg now, ih later, List.nil_append]

/-- **The receiver recovers as many messages as were sent** exactly if every message ends. -/
theorem length_receive_eq_iff (positive : 0 < unit) (messages : List (List α)) :
    (receive unit [] (messages.flatMap (chunks unit))).1.length = messages.length ↔
      ∀ message ∈ messages, ¬unit ∣ message.length := by
  rw [length_receive_flatMap_chunks positive, List.countP_eq_length]
  exact forall₂_congr fun message _ => decide_eq_true_iff

/-- The last piece of a message is short exactly if the length is not a multiple of the unit. -/
theorem getLast_chunks_short_iff (positive : 0 < unit) {message : List α} {last : List α}
    (ended : (chunks unit message).getLast? = some last) :
    last.length < unit ↔ ¬unit ∣ message.length := by
  obtain ⟨before, split⟩ := List.getLast?_eq_some_iff.mp ended
  have full : ∀ piece ∈ before, piece.length = unit := by
    intro piece member
    have among : piece ∈ (chunks unit message).dropLast := by
      rw [split, List.dropLast_concat]
      exact member
    exact length_of_mem_dropLast_chunks among
  have member : last ∈ chunks unit message := by
    rw [split]
    exact List.mem_append_right _ (List.mem_singleton_self _)
  have bounds := length_of_mem_chunks positive member
  have whole : message.length = before.length * unit + last.length := by
    conv_lhs => rw [← chunks_flatten unit positive message, split]
    rw [List.flatten_append, List.length_append, List.flatten_singleton, List.length_flatten,
      List.sum_eq_card_nsmul (before.map List.length) unit (by simpa using full), List.length_map]
    rfl
  rw [whole, Nat.dvd_add_right (Dvd.intro_left _ rfl)]
  constructor
  · intro short
    exact Nat.not_dvd_of_pos_of_lt bounds.1 short
  · intro odd
    refine lt_of_le_of_ne bounds.2.1 fun same => odd ?_
    rw [same]

end Framing

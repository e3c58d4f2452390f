import DeskflowPlus.Stream.PacketFraming
import DeskflowPlus.Stream.PacketReader

/-!
# What the reader sees of the filter

The filter with its buffer and its header in hand is, for its reader, the packets that are ready. A
read of the filter is one of these packets, and a notification brings the packets that its pieces
complete.
-/

namespace DeskflowPlus

namespace PacketStream

variable {bytes more : List UInt8}

theorem packets_append (bytes more : List UInt8) : packets bytes <+: packets (bytes ++ more) := by
  induction hlength : bytes.length using Nat.strong_induction_on generalizing bytes with
  | _ length ih =>
    cases hnext : nextPacket bytes with
    | none =>
      rw [packets_of_none hnext]
      exact List.nil_prefix
    | some pair =>
      obtain ⟨payload, rest⟩ := pair
      obtain ⟨⟨hheader, hbody⟩, heq⟩ := Option.ite_none_right_eq_some.mp hnext
      obtain ⟨hpayload, hrest⟩ := Prod.mk.inj (Option.some.inj heq)
      have hmore : nextPacket (bytes ++ more) = some (payload, rest ++ more) := by
        have hlong : BigEndian.decode (bytes.take 4) ≤ (bytes.drop 4 ++ more).length := by
          rw [List.length_append]
          exact Nat.le_add_right_of_le hbody
        rw [nextPacket, List.take_append_of_le_length hheader,
          List.drop_append_of_le_length hheader,
          if_pos ⟨List.length_append ▸ Nat.le_add_right_of_le hheader, hlong⟩,
          List.take_append_of_le_length hbody, List.drop_append_of_le_length hbody, hpayload, hrest]
      rw [packets_of_some hnext, packets_of_some hmore]
      exact (List.prefix_cons_inj payload).mpr
        (ih _ (hlength ▸ length_lt_of_nextPacket hnext) rest rfl)

theorem packets_flatMap_write {payloads : List (List UInt8)}
    (h : ∀ payload ∈ payloads, payload.length < 2 ^ 32) :
    packets (payloads.flatMap PacketStreamFilter.write) = payloads := by
  induction payloads with
  | nil => exact packets_of_short (Nat.zero_lt_succ 3)
  | cons payload payloads ih =>
    obtain ⟨hfirst, hrest⟩ := List.forall_mem_cons.mp h
    rw [List.flatMap_cons, PacketStreamFilter.write, List.append_assoc,
      packets_encode_of_le hfirst (List.length_append ▸ Nat.le_add_right _ _), List.take_left,
      List.drop_left, ih hrest]

end PacketStream

open PacketStream

namespace PacketStreamFilter

variable {filter : PacketStreamFilter} {n : Nat} {incoming current piece : List UInt8}
  {rest pieces : List (List UInt8)}

/-- The packets that are ready. -/
def view (filter : PacketStreamFilter) : PacketReader := .next (packets filter.pending)

/-- The bytes that are not read are those of packets that are not empty. -/
theorem Framed.unread (hrest : ∀ payload ∈ rest, Sendable payload)
    (h : Framed incoming filter rest current) : filter.size < 2 ^ 32 ∧ ¬ filter.Obstructed ∧
      ∀ front back, front ++ back = filter.pending ++ incoming →
        ∀ payload ∈ packets front, payload ≠ [] := by
  have hfronts {unread : List (List UInt8)} (hfull : ∀ payload ∈ unread, payload ≠ [])
      (hall : packets (filter.pending ++ incoming) = unread) (front back : List UInt8)
      (hsplit : front ++ back = filter.pending ++ incoming) :
      ∀ payload ∈ packets front, payload ≠ [] := by
    intro payload hmem
    apply hfull
    rw [← hall, ← hsplit]
    exact (packets_append front back).subset hmem
  have hshort {payload : List UInt8} (hsend : Sendable payload) : payload.length < 2 ^ 32 :=
    hsend.2.trans_lt (by decide)
  cases h with
  | header hsize hshort' hbytes =>
    have hall : packets (filter.pending ++ incoming) = rest := by
      rw [pending_of_zero hsize, hbytes,
        packets_flatMap_write fun payload hmem => hshort (hrest payload hmem)]
    refine ⟨hsize ▸ Nat.two_pow_pos 32, ?_,
      hfronts (fun payload hmem => (hrest payload hmem).1) hall⟩
    rw [obstructed_of_zero hsize, pending_of_zero hsize, packets_of_short hshort']
    exact not_not_intro rfl
  | @body later current left hsize hleft hbytes =>
    obtain ⟨hfirst, hlater⟩ := List.forall_mem_cons.mp hrest
    have hlong : left.length < 2 ^ 32 :=
      (List.length_append ▸ Nat.le_add_left _ _ : left.length ≤ (current ++ left).length).trans_lt
        (hshort hfirst)
    have hsome : left ≠ [] := fun hnil => hsize (hleft ▸ congrArg List.length hnil)
    have hfull : ∀ payload ∈ left :: later, payload ≠ [] :=
      List.forall_mem_cons.mpr ⟨hsome, fun payload hmem => (hlater payload hmem).1⟩
    have hall : packets (filter.pending ++ incoming) = left :: later := by
      have hwritten : filter.pending ++ incoming = (left :: later).flatMap write := by
        rw [pending_of_ne hsize, List.append_assoc, hbytes, List.flatMap_cons, write, ← hleft,
          List.append_assoc]
      rw [hwritten, packets_flatMap_write (List.forall_mem_cons.mpr ⟨hlong, fun payload hmem =>
        hshort (hlater payload hmem)⟩)]
    refine ⟨hleft ▸ hlong, ?_, hfronts hfull hall⟩
    rw [obstructed_of_ne hsize]
    exact fun hmem => hfronts hfull hall _ incoming rfl [] (List.dropLast_subset _ hmem) rfl

end PacketStreamFilter

open PacketStreamFilter

end DeskflowPlus

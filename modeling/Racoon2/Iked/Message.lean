import Racoon2.Iked.Header

/-!
# The octets of a message

IKEv1 and IKEv2 have one header: SPIs, the next payload, version to message ID, the length.  Here the
fields of a message are read and written, with everything behind the header left as it is.
-/

set_option linter.unusedVariables false

namespace Ikev2
open Bytes

/-- SPIs, next payload, version to message ID, length, payloads -/
def message (spis : Octets 16) (next : UInt8) (mid : Octets 7) (length : Nat) (body : Bytes) : Bytes :=
  spis.1 ++ ([next] ++ (mid.1 ++ (enc32 length ++ body)))

section
variable (spis : Octets 16) (next : UInt8) (mid : Octets 7) (length : Nat) (body : Bytes)

theorem message_length : (message spis next mid length body).length = headerSize + body.length := by
  unfold message headerSize
  rw [List.length_append, List.length_append, List.length_append, List.length_append, spis.2, mid.2,
    enc32_length]
  show 16 + (1 + (7 + (4 + _))) = _
  omega

theorem nextPayload_message : nextPayload (message spis next mid length body) = next := by
  have h := byteAt_append_right spis.1 ([next] ++ (mid.1 ++ (enc32 length ++ body))) 0
  rw [spis.2] at h
  exact h

theorem message_eq_header : message spis next mid length body =
    (spis.1 ++ [next] ++ mid.1 ++ enc32 length) ++ body := by
  unfold message
  simp only [List.append_assoc]

theorem header_length : (spis.1 ++ [next] ++ mid.1 ++ enc32 length).length = headerSize := by
  rw [List.length_append, List.length_append, List.length_append, spis.2, mid.2, enc32_length]
  rfl

theorem firstPayload_message : firstPayload (message spis next mid length body) = body := by
  unfold firstPayload
  rw [message_eq_header]
  exact List.drop_left' (header_length spis next mid length)

/-- the octets before the length -/
theorem message_eq_length : message spis next mid length body =
    (spis.1 ++ ([next] ++ mid.1)) ++ (enc32 length ++ body) := by
  unfold message
  simp only [List.append_assoc]

theorem before_length : (spis.1 ++ ([next] ++ mid.1)).length = 24 := by
  rw [List.length_append, List.length_append, spis.2, mid.2]
  rfl

theorem headerLength_message (h : length < 2 ^ 32) :
    headerLength (message spis next mid length body) = length := by
  unfold headerLength
  have hread := be32_append_right (spis.1 ++ ([next] ++ mid.1)) (enc32 length ++ body) 0
  rw [before_length] at hread
  rw [message_eq_length, hread, be32_enc32 h]

theorem put_next (next' : UInt8) :
    put (message spis next mid length body) 16 [next'] = message spis next' mid length body := by
  have h := put_append spis.1 (mid.1 ++ (enc32 length ++ body))
    (show [next].length = [next'].length from rfl)
  rw [spis.2] at h
  exact h

theorem put_headerLength (length' : Nat) :
    put (message spis next mid length body) 24 (enc32 length') =
      message spis next mid length' body := by
  have h := put_append (spis.1 ++ ([next] ++ mid.1)) body
    ((enc32_length length).trans (enc32_length length').symm)
  rw [before_length] at h
  rw [message_eq_length, message_eq_length, h]

/-- what is written behind the header is written into the payloads -/
theorem put_body (i : Nat) (v : Bytes) : put (message spis next mid length body) (headerSize + i) v =
    message spis next mid length (put body i v) := by
  rw [message_eq_header, message_eq_header]
  have hlen := header_length spis next mid length
  generalize spis.1 ++ [next] ++ mid.1 ++ enc32 length = header at hlen
  unfold put
  rw [← hlen, List.take_length_add_append, Nat.add_assoc, List.drop_length_add_append]
  simp only [List.append_assoc]

theorem slice_body (i n : Nat) : slice (message spis next mid length body) (headerSize + i) n =
    slice body i n := by
  rw [message_eq_header, ← header_length spis next mid length, slice_append_right]

/-- the fields behind the header -/
theorem be16_body (i : Nat) :
    be16 (message spis next mid length body) (headerSize + i) = be16 body i := by
  rw [message_eq_header, ← header_length spis next mid length, be16_append_right]

theorem byteAt_body (i : Nat) :
    byteAt (message spis next mid length body) (headerSize + i) = byteAt body i := by
  rw [message_eq_header, ← header_length spis next mid length, byteAt_append_right]

/-- the message ID is in the last octets before the length -/
theorem messageId_message : messageId (message spis next mid length body) = be32 mid.1 3 := by
  have hpre : (spis.1 ++ [next]).length = 17 := by
    rw [List.length_append, spis.2]
    rfl
  have hread := be32_append_right (spis.1 ++ [next]) (mid.1 ++ (enc32 length ++ body)) 3
  rw [hpre] at hread
  have hmid : be32 (mid.1 ++ (enc32 length ++ body)) 3 = be32 mid.1 3 := by
    have hlen := mid.2
    unfold be32 be16
    rw [byteAt_append_left _ _ _ (by omega), byteAt_append_left _ _ _ (by omega),
      byteAt_append_left _ _ _ (by omega), byteAt_append_left _ _ _ (by omega)]
  unfold messageId message
  rw [← List.append_assoc]
  exact hread.trans hmid

theorem take_header : (message spis next mid length body).take headerSize =
    message spis next mid length [] := by
  rw [message_eq_header, message_eq_header, List.append_nil]
  exact List.take_left' (header_length spis next mid length)

theorem message_nil_append (b : Bytes) :
    message spis next mid length [] ++ b = message spis next mid length b := by
  rw [message_eq_header, message_eq_header, List.append_nil]

end

end Ikev2

import Mathlib.Data.PNat.Basic

/-!
# Sniproxy — the byte buffers of a connection

Each half of a connection owns one `struct Buffer`: the client buffer holds bytes received from
the client and bound for the server, the server buffer the reverse. `connection.c` uses only six
operations on it (`new_buffer`, `buffer_len`, `buffer_room`, `buffer_peek`, `buffer_recv`,
`buffer_send`), and their definitions live in `buffer.c`, which is not part of the sources here.
They are modelled from the spec (§3 and §4.2): a buffer is a byte queue of fixed positive
capacity, `buffer_recv` issues one `recv` sized to the free room and appends what it got,
`buffer_send` issues one `send` of the pending bytes and drops the prefix the kernel took, and
`buffer_peek` copies without consuming.

The kernel's side of each call is an input: what the socket offers to a `recv`, and how many bytes
a `send` is allowed to write, or the `errno` of a failed call.
-/

namespace Sniproxy

/-- The `errno` values the core distinguishes; every other error is `other`. -/
inductive Errno where
  | EAGAIN
  | EWOULDBLOCK
  | EINTR
  | EINPROGRESS
  | other (code : Nat)
  deriving DecidableEq, Repr

/-- Modelled from the spec: `struct Buffer` (`buffer.c`). A byte queue of fixed capacity `size`,
positive as every buffer `new_buffer` allocates is; the pending bytes `data` never exceed it. -/
structure Buffer where
  size : Nat
  data : List UInt8
  size_pos : 0 < size
  len_le : data.length ≤ size

/-- Modelled from the spec: `new_buffer()`, an empty buffer of the capacity `buffer.c` picks. -/
def newBuffer (size : ℕ+) : Buffer :=
  ⟨size, [], size.pos, Nat.zero_le _⟩

/-- Modelled from the spec: `buffer_len`, the number of pending bytes. -/
def bufferLen (b : Buffer) : Nat := b.data.length

/-- Modelled from the spec: `buffer_room`, the number of free bytes. -/
def bufferRoom (b : Buffer) : Nat := b.size - b.data.length

/-- Modelled from the spec: `buffer_peek(b, dst, n)`, the first `n` pending bytes, not consumed. -/
def bufferPeek (b : Buffer) (n : Nat) : List UInt8 := b.data.take n

/-- Modelled from the spec: `buffer_recv(b, fd, 0)`. One `recv` of at most `buffer_room` bytes
from a socket offering `offer`; the bytes read are appended. Returns the buffer and the bytes read
(an empty read is the `0` of end of stream), or the `errno` of a failed call. -/
def bufferRecv (b : Buffer) : Except Errno (List UInt8) → Buffer × Except Errno (List UInt8)
  | .error e => (b, .error e)
  | .ok offer =>
    (⟨b.size, b.data ++ offer.take (bufferRoom b), b.size_pos, by
      simp only [List.length_append, List.length_take, bufferRoom]; have := b.len_le; omega⟩,
     .ok (offer.take (bufferRoom b)))

/-- Modelled from the spec: `buffer_send(b, fd, 0)`. One `send` of the pending bytes, of which
the kernel takes `n`; that prefix is dropped. Returns the buffer and the bytes written, or the
`errno` of a failed call. -/
def bufferSend (b : Buffer) : Except Errno Nat → Buffer × Except Errno (List UInt8)
  | .error e => (b, .error e)
  | .ok n =>
    (⟨b.size, b.data.drop n, b.size_pos, by
      simp only [List.length_drop]; have := b.len_le; omega⟩,
     .ok (b.data.take n))

/-! ## Buffer lemmas -/

@[simp] theorem newBuffer_data (size : ℕ+) : (newBuffer size).data = [] := rfl

@[simp] theorem bufferRecv_error (b : Buffer) (e : Errno) :
    bufferRecv b (.error e) = (b, .error e) := rfl

@[simp] theorem bufferRecv_data (b : Buffer) (offer : List UInt8) :
    (bufferRecv b (.ok offer)).1.data = b.data ++ offer.take (bufferRoom b) := rfl

@[simp] theorem bufferRecv_read (b : Buffer) (offer : List UInt8) :
    (bufferRecv b (.ok offer)).2 = .ok (offer.take (bufferRoom b)) := rfl

@[simp] theorem bufferSend_error (b : Buffer) (e : Errno) :
    bufferSend b (.error e) = (b, .error e) := rfl

@[simp] theorem bufferSend_data (b : Buffer) (n : Nat) :
    (bufferSend b (.ok n)).1.data = b.data.drop n := rfl

@[simp] theorem bufferSend_written (b : Buffer) (n : Nat) :
    (bufferSend b (.ok n)).2 = .ok (b.data.take n) := rfl

/-- A buffer has room exactly when it is not full. -/
theorem bufferRoom_ne_zero_iff (b : Buffer) : bufferRoom b ≠ 0 ↔ b.data.length < b.size := by
  simp only [bufferRoom]; omega

end Sniproxy

import Autoproto.StringBuilder

/-!
# The header of an HTTP transport

`http::Transport::write` builds its header in a `StringBuilder` and copies it in
front of the message, into space that `max_prepend_size` has reserved. The space
is always enough. The builder is not: it refuses every text after it has begun
to use the `RESERVED_SIZE` bytes at its end.
-/

namespace Autoproto.Http

open List

open Text (ascii decimal length_decimal_le)

/-! ## `HttpHeaderCreator` -/

/-- Slices are written one after the other. -/
def appendAll (slices : List Bytes) (builder : StringBuilder) : Except Fault StringBuilder :=
  slices.foldlM (fun builder slice => builder.append slice) builder

/-- A builder in the buffer of `MAX_HEADER` bytes, and the first line. -/
def initPost (url : Bytes) : Except Fault StringBuilder :=
  appendAll [ascii "POST ", url, ascii " HTTP/1.1\r\n"] (.new 4096 false)

/-- One line of a header. -/
def addHeader (key : String) (value : Bytes) : StringBuilder → Except Fault StringBuilder :=
  appendAll [ascii key, ascii ": ", value, ascii "\r\n"]

/-- The line with the size of the message. -/
def setContentSize (size : Nat) : StringBuilder → Except Fault StringBuilder :=
  addHeader "Content-Length" (decimal size)

/-- The line that keeps the connection open. -/
def setKeepAlive : StringBuilder → Except Fault StringBuilder :=
  addHeader "Connection" (ascii "keep-alive")

/-- The header, or none if an error has occurred. -/
def finish (builder : StringBuilder) : Except Fault (Option Bytes) := do
  let builder ← builder.append (ascii "\r\n")
  if builder.errorFlag then
    return none
  else
    let builder ← builder.perform .asCslice
    return some builder.content

/-! ## `http::Transport` -/

/-- The space before a message that has not been used, and the message. -/
structure BufferWriter where
  front : Bytes
  message : Bytes
  deriving DecidableEq

/-- Whether the transport reads or writes next. -/
inductive Turn where
  | write
  | read
  deriving DecidableEq

/-- The members of an HTTP transport. -/
structure Transport where
  secret : Bytes
  turn : Turn := .write
  deriving DecidableEq

namespace Transport

/-- The part of the secret before the first `'|'`. -/
def host (transport : Transport) : Bytes :=
  transport.secret.takeWhile (· ≠ 124)

/-- The part after it. -/
def proxyAuthorization (transport : Transport) : Bytes :=
  (transport.secret.dropWhile (· ≠ 124)).tail

/-- The space that is reserved for a header. -/
def maxPrependSize (transport : Transport) : Nat :=
  if transport.secret = [] then 96 else (transport.secret.length + 1) / 2 * 4 + 156

/-- The headers that name a host. -/
def proxyHeaders (host : Bytes) : Except Fault StringBuilder := do
  let builder ← initPost (ascii "HTTP://" ++ host ++ ascii ":80/api")
  let builder ← addHeader "Host" host builder
  let builder ← addHeader "User-Agent" (ascii "curl/7.35.0") builder
  let builder ← addHeader "Accept" (ascii "*/*") builder
  addHeader "Proxy-Connection" (ascii "keep-alive") builder

/-- The headers before the size of the message. -/
def headers (transport : Transport) : Except Fault StringBuilder :=
  if transport.host = [] then do
    let builder ← initPost (ascii "/api")
    setKeepAlive (← addHeader "Host" [] builder)
  else if transport.proxyAuthorization = [] then
    proxyHeaders transport.host
  else do
    let builder ← proxyHeaders transport.host
    addHeader "Proxy-Authorization" transport.proxyAuthorization builder

/-- What `finish` returns for a message of this size. -/
def header (size : Nat) (transport : Transport) : Except Fault (Option Bytes) := do
  let builder ← transport.headers
  finish (← setContentSize size builder)

/-- `prepare_prepend`, the copy and `confirm_prepend`. -/
def prepend (source : Bytes) (writer : BufferWriter) : Except Fault BufferWriter := do
  let start := (writer.front.length + 2 ^ 64 - source.length) % 2 ^ 64
  check (start ≤ writer.front.length)
  check (source.length ≤ writer.front.length - start)
  check (source.length ≤ writer.front.length)
  return ⟨writer.front.take start, source ++ writer.message⟩

/-- The header is built, and copied in front of the message. -/
def write (writer : BufferWriter) (quickAck : Bool)
    (transport : Transport) : Except Fault (BufferWriter × Transport) := do
  check (transport.turn = .write)
  check (quickAck = false)
  match ← transport.header writer.message.length with
  | none => .error .check
  | some source => do
    let writer ← prepend source writer
    return (writer, { transport with turn := .read })

/-- The length of the headers before `Content-Length`. -/
def headersLength (transport : Transport) : Nat :=
  if transport.host = [] then
    52
  else
    106 + 2 * transport.host.length +
      if transport.proxyAuthorization = [] then 0 else 23 + transport.proxyAuthorization.length

/-- The length of the whole header. -/
def headerLength (size : Nat) (transport : Transport) : Nat :=
  transport.headersLength + (decimal size).length + 20

end Transport

/-! ## What the builder holds -/

/-- A builder in the buffer of a header, to which so many bytes have been added. -/
structure Holds (count : Nat) (builder : StringBuilder) : Prop where
  fits : builder.Fits
  endOffset : builder.endOffset = 4066
  useBuffer : builder.useBuffer = false
  content : builder.errorFlag = false → builder.content.length = count
  noError : count ≤ 4066 → builder.errorFlag = false

/-- A computation returns a builder that holds so many bytes. -/
def Builds (count : Nat) (computation : Except Fault StringBuilder) : Prop :=
  ∃ builder, computation = .ok builder ∧ Holds count builder

variable {builder : StringBuilder} {count : Nat}

theorem Holds.append (holds : Holds count builder) (slice : Bytes) :
    ∃ after, builder.append slice = .ok after ∧ Holds (count + slice.length) after ∧
      (after.errorFlag = false ↔
        builder.errorFlag = false ∧ count ≤ 4066 ∧ count + slice.length < 4096) := by
  obtain ⟨after, appended, fits, adds⟩ := StringBuilder.append_spec holds.fits slice
  obtain ⟨endOffset, useBuffer, noError⟩ :=
    StringBuilder.append_fixed holds.fits holds.useBuffer appended
  rw [holds.endOffset] at endOffset noError
  have correct : after.errorFlag = false ↔
      builder.errorFlag = false ∧ count ≤ 4066 ∧ count + slice.length < 4096 := by
    rw [noError]
    refine and_congr_right fun correct => ?_
    rw [holds.content correct, StringBuilder.reservedSize_eq]
  refine ⟨after, appended, ⟨fits, endOffset, useBuffer, fun built => ?_, fun short => ?_⟩, correct⟩
  · rw [(adds built).2, length_append, holds.content (adds built).1]
  · exact correct.mpr ⟨holds.noError (by omega), by omega, by omega⟩

theorem Builds.bind {computation : Except Fault StringBuilder} {more : Nat}
    {continuation : StringBuilder → Except Fault StringBuilder}
    (builds : Builds count computation)
    (continues : ∀ builder, Holds count builder → Builds (count + more) (continuation builder)) :
    Builds (count + more) (computation >>= continuation) := by
  obtain ⟨builder, rfl, holds⟩ := builds
  exact continues builder holds

theorem Holds.appendAll (holds : Holds count builder) (slices : List Bytes) :
    Builds (count + slices.flatten.length) (appendAll slices builder) := by
  induction slices generalizing builder count with
  | nil => exact ⟨builder, rfl, holds⟩
  | cons slice slices ih =>
    obtain ⟨after, appended, holds, _⟩ := holds.append slice
    rw [Http.appendAll, foldlM_cons, appended, ok_bind, flatten_cons, length_append,
      ← Nat.add_assoc]
    exact ih holds

theorem Builds.of_eq {computation : Except Fault StringBuilder} {total : Nat}
    (builds : Builds count computation) (same : count = total) : Builds total computation :=
  same ▸ builds

theorem Builds.addHeader {computation : Except Fault StringBuilder}
    (builds : Builds count computation) (key : String) (value : Bytes) :
    Builds (count + ((ascii key).length + value.length + 4))
      (computation >>= Http.addHeader key value) := by
  have added : [ascii key, ascii ": ", value, ascii "\r\n"].flatten.length =
      (ascii key).length + value.length + 4 := by
    simp [ascii]
    omega
  rw [← added]
  exact builds.bind fun builder holds => holds.appendAll _

namespace Transport

theorem builds_initPost (url : Bytes) : Builds (url.length + 16) (initPost url) := by
  have empty : Holds 0 (.new 4096 false) :=
    ⟨⟨rfl, by decide⟩, rfl, rfl, fun _ => rfl, fun _ => rfl⟩
  refine (empty.appendAll [ascii "POST ", url, ascii " HTTP/1.1\r\n"]).of_eq ?_
  simp [ascii]

theorem builds_proxyHeaders (host : Bytes) :
    Builds (106 + 2 * host.length) (proxyHeaders host) := by
  have post := builds_initPost (ascii "HTTP://" ++ host ++ ascii ":80/api")
  have agent := (post.addHeader "Host" host).addHeader "User-Agent" (ascii "curl/7.35.0")
  have built := (agent.addHeader "Accept" (ascii "*/*")).addHeader "Proxy-Connection"
    (ascii "keep-alive")
  simp only [bind_assoc] at built
  refine built.of_eq ?_
  simp [ascii]
  omega

variable (transport : Transport)

theorem builds_headers : Builds transport.headersLength transport.headers := by
  rw [headersLength, headers]
  split_ifs
  · have built := ((builds_initPost (ascii "/api")).addHeader "Host" []).addHeader "Connection"
      (ascii "keep-alive")
    simp only [bind_assoc] at built
    exact built
  · exact builds_proxyHeaders transport.host
  · refine ((builds_proxyHeaders transport.host).addHeader "Proxy-Authorization"
      transport.proxyAuthorization).of_eq ?_
    simp [ascii]
    omega

theorem header_spec (size : Nat) :
    ∃ finished, transport.header size = .ok finished ∧
      (finished = none ↔ 4068 < transport.headerLength size) ∧
      ∀ source, finished = some source → source.length = transport.headerLength size := by
  obtain ⟨builder, sized, holds⟩ :=
    transport.builds_headers.addHeader "Content-Length" (decimal size)
  have before : transport.headersLength + ((ascii "Content-Length").length +
      (decimal size).length + 4) + 2 = transport.headerLength size := by
    rw [headerLength]
    simp [ascii]
    omega
  obtain ⟨after, appended, built, noError⟩ := holds.append (ascii "\r\n")
  have line : (ascii "\r\n").length = 2 := rfl
  have same : transport.header size = (transport.headers >>= setContentSize size) >>= finish :=
    (bind_assoc ..).symm
  rw [same, setContentSize, sized, ok_bind, finish, appended, ok_bind]
  split_ifs with failed
  · refine ⟨none, rfl, iff_of_true rfl ?_, nofun⟩
    by_contra short
    rw [noError.mpr ⟨holds.noError (by omega), by omega, by omega⟩] at failed
    exact Bool.noConfusion failed
  · rw [Bool.not_eq_true] at failed
    obtain ⟨-, short, -⟩ := noError.mp failed
    rw [built.fits.perform_asCslice]
    refine ⟨_, rfl, iff_of_false nofun (by omega), fun source isSource => ?_⟩
    cases isSource
    rw [built.content failed, line, before]

theorem headerLength_le_maxPrependSize {size : Nat} (small : size < 2 ^ 24) :
    transport.headerLength size ≤ transport.maxPrependSize := by
  have digits : (decimal size).length ≤ 7 + 1 := length_decimal_le (by omega)
  have split : transport.host.length + (transport.secret.dropWhile (· ≠ 124)).length =
      transport.secret.length := by
    rw [host, ← length_append, takeWhile_append_dropWhile]
  have tail : transport.proxyAuthorization.length =
      (transport.secret.dropWhile (· ≠ 124)).length - 1 := length_tail
  rw [headerLength, headersLength, maxPrependSize]
  split_ifs with noHost noSecret noSecret noAuthorization <;>
    simp only [← length_eq_zero_iff] at * <;> omega

theorem prepend_eq_ok {source : Bytes} {writer : BufferWriter}
    (fits : source.length ≤ writer.front.length) (small : writer.front.length < 2 ^ 64) :
    prepend source writer =
      .ok ⟨writer.front.take (writer.front.length - source.length), source ++ writer.message⟩ := by
  have start : (writer.front.length + 2 ^ 64 - source.length) % 2 ^ 64 =
        writer.front.length - source.length := by
    omega
  rw [prepend, start]
  rw [check_eq_ok (by omega), ok_bind, check_eq_ok (by omega), ok_bind, check_eq_ok fits]
  rfl

/--
The reserved space is enough for every header, which is written just if the
builder has room for it.
-/
theorem write_fits
    (transport : Transport)
    (isTurn : transport.turn = .write)
    (writer : BufferWriter)
    (small : writer.message.length < 2 ^ 24)
    (reserved : writer.front.length = transport.maxPrependSize)
    (addressable : writer.front.length < 2 ^ 64) :
    transport.headerLength writer.message.length ≤ transport.maxPrependSize ∧
      (Returns (transport.write writer false) ↔
        transport.headerLength writer.message.length ≤ 4068) ∧
      (transport.headerLength writer.message.length ≤ 4068 →
        ∃ header, header.length = transport.headerLength writer.message.length ∧
          transport.write writer false = .ok
            (⟨writer.front.take (writer.front.length - header.length),
              header ++ writer.message⟩, { transport with turn := .read })) := by
  have enough := transport.headerLength_le_maxPrependSize small
  obtain ⟨finished, built, isNone, exactly⟩ := transport.header_spec writer.message.length
  cases finished with
  | none =>
    have long := isNone.mp rfl
    have failed : transport.write writer false = .error .check := by
      rw [write, check_eq_ok isTurn, ok_bind, check_eq_ok rfl, ok_bind, built, ok_bind]
    refine ⟨enough, iff_of_false ?_ (by omega), fun short => absurd short (by omega)⟩
    rw [failed]
    exact nofun
  | some source =>
    have short : ¬ 4068 < transport.headerLength writer.message.length := fun long =>
      Option.some_ne_none source (isNone.mpr long)
    have count := exactly source rfl
    have written : transport.write writer false = .ok
        (⟨writer.front.take (writer.front.length - source.length), source ++ writer.message⟩,
          { transport with turn := .read }) := by
      rw [write, check_eq_ok isTurn, ok_bind, check_eq_ok rfl, ok_bind, built, ok_bind]
      dsimp only
      rw [prepend_eq_ok (by omega) addressable, ok_bind, pure_eq_ok]
    exact ⟨enough, iff_of_true ⟨_, written⟩ (by omega), fun _ => ⟨source, count, written⟩⟩

/-- The header for a short host is written; that for a host of 1971 bytes is too long. -/
theorem write_fits_short_host :
    (∃ header : Bytes, header.length = 133 ∧
      Transport.write ⟨replicate 164 0, [1, 2, 3]⟩ false ⟨[97, 98, 99], .write⟩ = .ok
        (⟨(replicate 164 0).take (164 - header.length), header ++ [1, 2, 3]⟩,
          ⟨[97, 98, 99], .read⟩)) ∧
      ¬ Returns (Transport.write ⟨replicate 4100 0, [1, 2, 3]⟩ false
        ⟨replicate 1971 97, .write⟩) :=
  ⟨(write_fits ⟨[97, 98, 99], .write⟩ rfl ⟨replicate 164 0, [1, 2, 3]⟩ (by decide)
      (by decide +kernel) (by decide +kernel)).2.2 (by decide +kernel),
    fun returned => absurd ((write_fits ⟨replicate 1971 97, .write⟩ rfl
      ⟨replicate 4100 0, [1, 2, 3]⟩ (by decide) (by decide +kernel)
      (by decide +kernel)).2.1.mp returned) (by decide +kernel)⟩

/-- A host of 2000 bytes is too long for the builder. -/
theorem write_aborts : ∃ (transport : Transport) (writer : BufferWriter), transport.turn = .write ∧
        writer.message = [] ∧ writer.front.length = transport.maxPrependSize ∧
        transport.write writer false = .error .check := by
  refine ⟨⟨replicate 2000 97, .write⟩, ⟨replicate 4156 0, []⟩, rfl, rfl, ?_, ?_⟩
  · decide +kernel
  · decide +kernel

end Transport

end Autoproto.Http

import NetLatencyMonitor.Http.Request
import NetLatencyMonitor.Text.Split

/-! `net.SplitHostPort` and `net.JoinHostPort`, which writes the remote address that
`net/http` puts into a request. -/

namespace NetLatencyMonitor.Http

open Text

/-- What stands before and after the last occurrence of a byte. -/
def cutLast (separator : UInt8) : GoString → Option (GoString × GoString)
  | [] => none
  | byte :: rest =>
    match cutLast separator rest with
    | some (before, behind) => some (byte :: before, behind)
    | none => if byte = separator then some ([], rest) else none

/-- `net.SplitHostPort`; the program does not read its errors. -/
def splitHostPort (hostport : GoString) : Option (GoString × GoString) :=
  match cutLast 0x3a hostport with
  | none => none
  | some (before, port) =>
    if hostport.head? = some 0x5b then
      -- the first closing bracket stands right before the last colon
      let bracketEnd := hostport.idxOf 0x5d
      if bracketEnd + 1 = before.length then
        if (hostport.drop 1).contains 0x5b || (hostport.drop (bracketEnd + 1)).contains 0x5d then none
        else some ((hostport.take bracketEnd).drop 1, port)
      else none
    else if before.contains 0x3a || hostport.contains 0x5b || hostport.contains 0x5d then none
    else some (before, port)

/-- `net.JoinHostPort`: an IPv6 address goes into brackets. -/
def joinHostPort (host port : GoString) : GoString :=
  if host.contains 0x3a then 0x5b :: host ++ 0x5d :: 0x3a :: port else host ++ 0x3a :: port

private theorem cutLast_free {separator : UInt8} {text : GoString} (free : separator ∉ text) :
    cutLast separator text = none := by
  induction text with
  | nil => rfl
  | cons byte rest ih =>
    rw [cutLast, ih (fun member => free (List.mem_cons_of_mem byte member))]
    have other : byte ≠ separator := fun same => free (same ▸ List.mem_cons_self)
    exact if_neg other

private theorem cutLast_part {separator : UInt8} (before : GoString) {behind : GoString} (free : separator ∉ behind) :
    cutLast separator (before ++ separator :: behind) = some (before, behind) := by
  induction before with
  | nil =>
    rw [List.nil_append, cutLast, cutLast_free free]
    exact if_pos rfl
  | cons byte rest ih => rw [List.cons_append, cutLast, ih]

/-- The remote end of a connection: an IP address, perhaps with a zone, and a port. -/
structure Remote where
  host : GoString
  port : GoString
  plainHost : 0x5b ∉ host ∧ 0x5d ∉ host
  plainPort : 0x3a ∉ port ∧ 0x5b ∉ port ∧ 0x5d ∉ port

/-- What `net/http` puts into `RemoteAddr`. -/
def Remote.addr (remote : Remote) : GoString := joinHostPort remote.host remote.port

/-- Splitting undoes joining, for IPv4 and IPv6 addresses alike. -/
theorem splitHostPort_addr (remote : Remote) : splitHostPort remote.addr = some (remote.host, remote.port) := by
  obtain ⟨host, port, ⟨noOpen, noClose⟩, noColon, portNoOpen, portNoClose⟩ := remote
  show splitHostPort (joinHostPort host port) = some (host, port)
  unfold joinHostPort
  by_cases six : host.contains 0x3a = true
  · rw [if_pos six]
    have shape : (0x5b :: host ++ 0x5d :: 0x3a :: port : GoString) = (0x5b :: host ++ [0x5d]) ++ 0x3a :: port := by simp
    have closing : (0x5b :: host ++ 0x5d :: 0x3a :: port : GoString).idxOf 0x5d = host.length + 1 := by
      rw [List.cons_append, List.idxOf_cons_ne _ (by decide), List.idxOf_append_of_notMem noClose,
        List.idxOf_cons_self]
    unfold splitHostPort
    rw [shape, cutLast_part _ noColon, ← shape]
    simp only [closing]
    rw [if_pos (show (0x5b :: host ++ 0x5d :: 0x3a :: port : GoString).head? = some 0x5b from rfl), if_pos (by simp),
      if_neg (by simp [noOpen, portNoOpen, portNoClose])]
    simp
  · rw [if_neg six]
    have four : 0x3a ∉ host := by simpa using six
    have opens : (host ++ 0x3a :: port : GoString).head? ≠ some 0x5b := by
      intro same
      cases host with
      | nil => exact absurd (Option.some.inj same) (by decide)
      | cons byte rest => exact noOpen (Option.some.inj same ▸ List.mem_cons_self)
    unfold splitHostPort
    rw [cutLast_part _ noColon]
    simp only [if_neg opens]
    rw [if_neg (by simp [four, noOpen, noClose, portNoOpen, portNoClose])]

end NetLatencyMonitor.Http

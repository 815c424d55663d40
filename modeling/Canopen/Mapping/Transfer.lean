import Canopen.Mapping.Resolve

/-! # Transfer of mapped values

`gather` copies the values of the mapped objects into the buffer of a frame, `scatter` copies the
bytes of a received frame into them.  Each entry takes the bytes that follow those of the entry
before it.  An object that refuses to be read leaves its bytes of the buffer as they are; one that
refuses to be written stays as it is; neither disturbs the other entries. -/

namespace Canopen

namespace Target

/-- The bytes of an entry, which so far holds `chunk`. -/
def fetch (d : Dictionary) (t : Target) (chunk : Bytes) : Bytes :=
  match t with
  | object id _ _ =>
    match d.read id 0 chunk.length with
    | .ok value => value.overlay chunk
    | .error _ => chunk
  | dummy _ _ => Bytes.zeros chunk.length

/-- Put the received bytes of an entry into its object. -/
def deliver (d : Dictionary) (t : Target) (chunk : Bytes) : Dictionary :=
  match t with
  | object id _ _ =>
    match d.writeLeading id chunk with
    | .ok d => d
    | .error _ => d
  | dummy _ _ => d

end Target

/-- Fill a buffer with the values of the targets. -/
def gatherTargets (d : Dictionary) : List Target → Bytes → Bytes
  | [], buffer => buffer
  | t :: ts, buffer =>
    t.fetch d (buffer.take t.len) ++ gatherTargets d ts (buffer.drop t.len)

/-- Put received bytes into the targets. -/
def scatterTargets (d : Dictionary) : List Target → Bytes → Dictionary
  | [], _ => d
  | t :: ts, data => scatterTargets (t.deliver d (data.take t.len)) ts (data.drop t.len)

namespace MappedPdo

/-- Fill a buffer with the values of the mapped objects. -/
def gather (m : MappedPdo) (d : Dictionary) (buffer : Bytes) : Bytes :=
  gatherTargets d m.targets buffer

/-- Put received bytes into the mapped objects. -/
def scatter (m : MappedPdo) (d : Dictionary) (data : Bytes) : Dictionary :=
  scatterTargets d m.targets data

end MappedPdo

end Canopen

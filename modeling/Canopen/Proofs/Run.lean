import Canopen.Node

/-! # Runs of a node

A node meets one event after another: ticks, frames from the bus, accesses to its object dictionary,
and the calls of the application.  `Node.step` is the node after one event and `Node.run` the node
after a list of them.  Every tick is handed the transport in a state of its own, so a run covers
every way in which the transport may accept or refuse frames.

`Node.Along P` says that each event of a run satisfies `P` in the state which it meets, and
`Node.trace` collects what can be observed at each event, such as the frames that a receive PDO
accepts (`accepted`) and those that are committed to its mapped objects (`committed`). -/

namespace Canopen

/-- Something that happens to a node whose transport has states of type `σ`. -/
inductive Event (σ : Type) where
  /-- A tick, at a reading of the clock and with the transport in a given state. -/
  | tick (now : UInt64) (link : σ)
  /-- A frame from the bus. -/
  | frame (f : Frame)
  /-- A write of a whole value of the object dictionary. -/
  | write (id : ObjectId) (data : Bytes)
  /-- A write of the leading bytes of a value. -/
  | writeLeading (id : ObjectId) (data : Bytes)
  /-- The application sets the value of a variable, or of an element of an array. -/
  | store (index : UInt16) (i : Nat) (v : ScalarValue)
  /-- The application asks a transmit PDO for a transmission. -/
  | requestSend (pdo : Nat)
  | setNmt (nmt : NmtState)
  | setNodeId (id : NodeId)
  | reset
  | loadConfig (c : DeviceConfig)

/-- The frame that was handed to the transport, whether it was accepted or not. -/
def Transmission.frame? : Transmission → Option Frame
  | idle => none
  | sent f | refused f => some f

/-- Does the event end with a communication reset? -/
def Event.IsReset {σ : Type} : Event σ → Prop
  | .setNodeId _ | .reset | .loadConfig _ => True
  | _ => False

namespace Node

variable {σ α : Type} [Transport σ]

/-- The node after an event. -/
def step (n : Node) : Event σ → Node
  | .tick now link => (n.tick now link).2.1
  | .frame f => (n.receive f).2
  | .write id data => (n.write id data).2
  | .writeLeading id data => { n with device := (n.device.writeLeading id data).2 }
  | .store index i v => { n with device := n.device.store index i v }
  | .requestSend pdo => n.requestSend pdo
  | .setNmt nmt => n.setNmtState nmt
  | .setNodeId id => n.setNodeId id
  | .reset => n.resetCommunication
  | .loadConfig c => n.loadConfig c

/-- The node after a list of events. -/
def run : Node → List (Event σ) → Node
  | n, [] => n
  | n, e :: es => (n.step e).run es

/-- Every event satisfies `P` in the state which it meets. -/
def Along (P : Node → Event σ → Prop) : Node → List (Event σ) → Prop
  | _, [] => True
  | n, e :: es => P n e ∧ (n.step e).Along P es

/-- What is observed at the events, in order. -/
def trace (observe : Node → Event σ → List α) : Node → List (Event σ) → List α
  | _, [] => []
  | n, e :: es => observe n e ++ (n.step e).trace observe es

/-- The frame that a receive PDO accepts at an event, if there is one. -/
def acceptedBy (k : Nat) (n : Node) : Event σ → List Payload
  | .frame f => if (n.receive f).1 = .rpdo k true then [f.data] else []
  | _ => []

/-- The frame of a receive PDO that is committed to the mapped objects at an event, if there is
one. -/
def committedBy (k : Nat) (n : Node) : Event σ → List Payload
  | .tick now link => (n.tick now link).1.commits[k]?.join.toList
  | _ => []

/-- The frames that a receive PDO accepts, in order. -/
def accepted (k : Nat) (n : Node) (es : List (Event σ)) : List Payload := n.trace (acceptedBy k) es

/-- The frames of a receive PDO that are committed to the mapped objects, in order. -/
def committed (k : Nat) (n : Node) (es : List (Event σ)) : List Payload :=
  n.trace (committedBy k) es

@[simp] theorem run_nil (n : Node) : n.run ([] : List (Event σ)) = n := rfl

@[simp] theorem run_cons (n : Node) (e : Event σ) (es : List (Event σ)) :
    n.run (e :: es) = (n.step e).run es := rfl

theorem run_append (n : Node) (es es' : List (Event σ)) :
    n.run (es ++ es') = (n.run es).run es' := by
  induction es generalizing n with
  | nil => rfl
  | cons e es ih => exact ih (n.step e)

theorem run_concat (n : Node) (es : List (Event σ)) (e : Event σ) :
    n.run (es ++ [e]) = (n.run es).step e :=
  run_append n es [e]

theorem trace_append (observe : Node → Event σ → List α) (n : Node) (es es' : List (Event σ)) :
    n.trace observe (es ++ es') = n.trace observe es ++ (n.run es).trace observe es' := by
  induction es generalizing n with
  | nil => rfl
  | cons e es ih =>
      have h := ih (n.step e)
      simp only [List.cons_append, trace, run_cons, h, List.append_assoc]

theorem along_append {P : Node → Event σ → Prop} (n : Node) (es es' : List (Event σ)) :
    n.Along P (es ++ es') ↔ n.Along P es ∧ (n.run es).Along P es' := by
  induction es generalizing n with
  | nil => simp [Along]
  | cons e es ih => simp only [List.cons_append, Along, run_cons, ih (n.step e), and_assoc]

theorem along_iff {P : Node → Event σ → Prop} (n : Node) (es : List (Event σ)) :
    n.Along P es ↔ ∀ past e, past ++ [e] <+: es → P (n.run past) e := by
  induction es generalizing n with
  | nil => simp [Along]
  | cons e es ih =>
      constructor
      · rintro ⟨he, hes⟩ past e' hpast
        cases past with
        | nil =>
            obtain ⟨rfl, _⟩ := List.cons_prefix_cons.mp hpast
            exact he
        | cons e'' past =>
            obtain ⟨rfl, htail⟩ := List.cons_prefix_cons.mp hpast
            exact (ih _).mp hes past e' htail
      · intro h
        refine ⟨h [] e (List.cons_prefix_cons.mpr ⟨rfl, List.nil_prefix⟩), (ih _).mpr ?_⟩
        intro past e' hpast
        exact h (e :: past) e' (List.cons_prefix_cons.mpr ⟨rfl, hpast⟩)

theorem along_and {P Q : Node → Event σ → Prop} {n : Node} {es : List (Event σ)}
    (hP : n.Along P es) (hQ : n.Along Q es) : n.Along (fun m e => P m e ∧ Q m e) es := by
  induction es generalizing n with
  | nil => trivial
  | cons e es ih => exact ⟨⟨hP.1, hQ.1⟩, ih hP.2 hQ.2⟩

/-- An invariant of every step is an invariant of every run. -/
theorem run_invariant {I : Node → Prop} (h : ∀ (n : Node) (e : Event σ), I n → I (n.step e))
    {n : Node} (hn : I n) (es : List (Event σ)) : I (n.run es) := by
  induction es generalizing n with
  | nil => exact hn
  | cons e es ih => exact ih (h n e hn)

/-- What every event that satisfies `P` keeps holds after a run of such events. -/
theorem along_invariant {I : Node → Prop} {P : Node → Event σ → Prop}
    (h : ∀ (n : Node) (e : Event σ), P n e → I n → I (n.step e)) {n : Node} {es : List (Event σ)}
    (hes : n.Along P es) (hn : I n) : I (n.run es) := by
  induction es generalizing n with
  | nil => exact hn
  | cons e es ih => exact ih hes.2 (h n e hes.1 hn)

/-- A property of a run that every further event keeps is one of every run. -/
theorem run_history {I : List (Event σ) → Node → Prop} {n : Node} (hnil : I [] n)
    (hstep : ∀ (es : List (Event σ)) (e : Event σ), I es (n.run es) →
      I (es ++ [e]) (n.run (es ++ [e]))) (es : List (Event σ)) : I es (n.run es) := by
  have key : ∀ es past : List (Event σ), I past (n.run past) →
      I (past ++ es) (n.run (past ++ es)) := by
    intro es
    induction es with
    | nil =>
        intro past hpast
        rw [List.append_nil]
        exact hpast
    | cons e es ih =>
        intro past hpast
        rw [List.append_cons]
        exact ih (past ++ [e]) (hstep past e hpast)
  exact key es [] hnil

end Node

end Canopen

/-!
Contract: the order in which procs are stepped.

Every proc counts the connections that it still waits for. The first proc in
creation order that waits for none is released next, which takes the connections
that it serves off the counts of the others. Procs that are left over depend on a
cycle of connections.

Owns: the counts and the releases. A graph is given by the sources of each proc,
with one entry per connection.
-/

set_option autoImplicit false

namespace SignalNet

/-- Which procs were released so far, and what the others wait for. -/
structure Release where
  /-- Per proc, the connections from procs that were not released. -/
  waiting : List Int
  released : List Nat
deriving DecidableEq, Repr

namespace Release

/-- Nothing is released, so every proc waits for all its connections. -/
def start (sources : List (List Nat)) : Release :=
  ⟨sources.map fun inputs => (inputs.length : Int), []⟩

/-- The first proc that waits for nothing and was not released. -/
def next? (state : Release) : Option Nat :=
  (List.range state.waiting.length).find? fun proc =>
    state.waiting[proc]? == some 0 && !state.released.contains proc

/-- Release a proc: nobody waits for it any more. -/
def serve (sources : List (List Nat)) (state : Release) (proc : Nat) : Release :=
  ⟨List.zipWith (fun inputs count => count - (inputs.count proc : Int)) sources state.waiting,
    state.released ++ [proc]⟩

/-- Release procs while there are any, at most `steps` of them. -/
def run (sources : List (List Nat)) : Nat → Release → Release
  | 0, state => state
  | steps + 1, state =>
      match state.next? with
      | none => state
      | some proc => run sources steps (state.serve sources proc)

end Release

/-- The procs in the order of their release, or the first one that still waits. -/
def releaseOrder (sources : List (List Nat)) : Except Nat (List Nat) :=
  let last := Release.run sources sources.length (Release.start sources)
  if last.released.length = sources.length then .ok last.released
  else .error (((List.range sources.length).find? fun proc =>
    (last.waiting[proc]?.getD 0) > 0).getD 0)

end SignalNet

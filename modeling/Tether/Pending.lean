import Tether.Frame
import Tether.Log

/-!
# Pending requests

A request that has been written is pending until its response comes or its socket
closes. A table holds, for the id of each pending request, what its outcome is
delivered to.

* `Pending.Table.register`, `Pending.Table.take`: an id is pending once at most;
* `Pending.Table.resolve`: delivers a response to the request with its id;
* `Pending.Table.failAll`: tells all that the socket is gone;
* `resolveLog`, `failAllLog`: what these tell the log.
-/

namespace Tether.Pending

variable {κ : Type}

/-- The outcome of a request on its way to whoever waits for it. -/
structure Delivery (κ : Type) where
  recipient : κ
  outcome : Except Failure Response

/-- The pending requests, in the order of their registration. -/
structure Table (κ : Type) where
  entries : List (RequestId × κ)
  nodup_ids : (entries.map Prod.fst).Nodup
  deriving DecidableEq

namespace Table

/-- The table without pending requests. -/
def empty : Table κ := ⟨[], .nil⟩

instance : Inhabited (Table κ) := ⟨empty⟩

/-- The number of pending requests. -/
def size (t : Table κ) : Nat := t.entries.length

/-- Whether no request is pending. -/
def isEmpty (t : Table κ) : Bool := t.entries.isEmpty

/-- What the outcome of the request with this id is delivered to. -/
def get? (t : Table κ) (id : RequestId) : Option κ := t.entries.lookup id

/-- Whether the request with this id is pending. -/
def contains (t : Table κ) (id : RequestId) : Bool := t.entries.any fun e => e.1 = id

/-- The table without the request with this id. -/
def erase (t : Table κ) (id : RequestId) : Table κ where
  entries := t.entries.filter fun e => e.1 ≠ id
  nodup_ids := (List.filter_sublist.map Prod.fst).nodup t.nodup_ids

/-- A request becomes pending, unless one with its id is. A build with assertions stops at a
    second registration of an id; that is left out here, where it is an error as it is without
    them. -/
def register (t : Table κ) (id : RequestId) (recipient : κ) : Except Failure (Table κ) :=
  if h : t.contains id then .error (.protocol s!"duplicate request id: {id.text}")
  else
    .ok
      { entries := t.entries ++ [(id, recipient)]
        nodup_ids := by
          rw [List.map_append, List.nodup_append]
          refine ⟨t.nodup_ids, List.nodup_cons.2 ⟨List.not_mem_nil, .nil⟩, ?_⟩
          intro a ha b hb hab
          obtain ⟨e, he, rfl⟩ := List.mem_map.1 ha
          have hb : b = id := List.mem_singleton.1 hb
          exact h (List.any_eq_true.2 ⟨e, he, decide_eq_true (hab.trans hb)⟩) }

/-- The request with this id is no longer pending; what its outcome would have been
    delivered to. -/
def take (t : Table κ) (id : RequestId) : Table κ × Option κ := (t.erase id, t.get? id)

/-- Delivers a response to the pending request with its id, if there is one. -/
def resolve (t : Table κ) (r : Response) : Table κ × Option (Delivery κ) :=
  (t.erase r.id, (t.get? r.id).map fun recipient => ⟨recipient, .ok r⟩)

/-- What `resolve` tells the log. -/
def resolveLog (t : Table κ) (r : Response) : List Log.Entry :=
  if t.contains r.id then
    [.trace "Resolving pending request" [("id", r.id.text), ("ok", toString r.ok)]]
  else []

/-- Tells all pending requests that their socket is gone. -/
def failAll (t : Table κ) : Table κ × List (Delivery κ) :=
  (empty, t.entries.map fun e => ⟨e.2, .error .disconnected⟩)

/-- What `failAll` tells the log. -/
def failAllLog (t : Table κ) : List Log.Entry :=
  if t.isEmpty then []
  else [.debug "Failed pending requests on disconnect" [("count", toString t.size)]]

end Table

end Tether.Pending

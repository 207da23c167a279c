import YedMQ.Foundation.HashMap

/-! # Raft log entries

The parts of openraft's data that the state machines and log stores read: log
identifiers, cluster membership and log entries that carry a request, a
membership change or nothing.
-/

namespace YedMQ.Raft

open Foundation

abbrev NodeId := Nat

structure Node where
  nodeId : Option NodeId
  rpcAddr : String
  apiAddr : String
deriving DecidableEq

structure LeaderId where
  term : Nat
  nodeId : NodeId
deriving DecidableEq, Repr

structure LogId where
  leaderId : LeaderId
  index : Nat
deriving DecidableEq, Repr

structure Membership where
  configs : List (Finset NodeId)
  nodes : HashMap NodeId Node
deriving DecidableEq

structure StoredMembership where
  logId : Option LogId
  membership : Membership
deriving DecidableEq

def StoredMembership.default : StoredMembership where
  logId := none
  membership := { configs := [], nodes := ∅ }

inductive EntryPayload (Request : Type u) where
  | blank
  | normal (request : Request)
  | membership (membership : Membership)

structure Entry (Request : Type u) where
  logId : LogId
  payload : EntryPayload Request

end YedMQ.Raft

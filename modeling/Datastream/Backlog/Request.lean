import Datastream.Value.Extract

/-!
# Backlog requests

A client asks for stored messages by calling a slot of the core's backlog manager. The reply carries
no number: it repeats the parameters of the request before the messages, and `ofReply` rebuilds the
request from them.

Models `request_slot`, `receive_slot` and `params` (with `type_param` and `flags_param`), `from_reply`
as `ofReply` (with `read_type` and `read_flags`), and `to_messages`.
-/
namespace Datastream

/-- What messages are asked for: those of one buffer or of all, in a range of ids, with or without a
filter, towards older or towards newer messages. -/
inductive BacklogRequest
  | buffer (buffer : BufferId) (first last : MsgId) (limit additional : Int32)
  | bufferFiltered (buffer : BufferId) (first last : MsgId) (limit additional : Int32)
      (type : MessageType) (flags : MessageFlag)
  | bufferForward (buffer : BufferId) (first last : MsgId) (limit : Int32)
      (type : MessageType) (flags : MessageFlag)
  | all (first last : MsgId) (limit additional : Int32)
  | allFiltered (first last : MsgId) (limit additional : Int32)
      (type : MessageType) (flags : MessageFlag)
  deriving DecidableEq, Repr

namespace BacklogRequest

/-- The class whose slots carry requests and replies. -/
def className : String := "BacklogManager"

/-- The slot that a request calls on the core. -/
def requestSlot : BacklogRequest → String
  | buffer .. => "requestBacklog"
  | bufferFiltered .. => "requestBacklogFiltered"
  | bufferForward .. => "requestBacklogForward"
  | all .. => "requestBacklogAll"
  | allFiltered .. => "requestBacklogAllFiltered"

/-- The slot that the reply calls on the client. -/
def receiveSlot : BacklogRequest → String
  | buffer .. => "receiveBacklog"
  | bufferFiltered .. => "receiveBacklogFiltered"
  | bufferForward .. => "receiveBacklogForward"
  | all .. => "receiveBacklogAll"
  | allFiltered .. => "receiveBacklogAllFiltered"

/-- The slots that replies call. -/
def receiveSlots : List String :=
  ["receiveBacklog", "receiveBacklogFiltered", "receiveBacklogForward", "receiveBacklogAll",
   "receiveBacklogAllFiltered"]

/-- Filters travel as plain integers. -/
def typeParam (type : MessageType) : Value := .int (Int32.ofBitVec type.bits)
def flagsParam (flags : MessageFlag) : Value := .int (Int32.ofNat flags.toNat)

def params : BacklogRequest → List Value
  | buffer b first last limit additional =>
    [.bufferId b, .msgId first, .msgId last, .int limit, .int additional]
  | bufferFiltered b first last limit additional type flags =>
    [.bufferId b, .msgId first, .msgId last, .int limit, .int additional, typeParam type,
     flagsParam flags]
  | bufferForward b first last limit type flags =>
    [.bufferId b, .msgId first, .msgId last, .int limit, typeParam type, flagsParam flags]
  | all first last limit additional => [.msgId first, .msgId last, .int limit, .int additional]
  | allFiltered first last limit additional type flags =>
    [.msgId first, .msgId last, .int limit, .int additional, typeParam type, flagsParam flags]

/-- A filter by type, of which the known bits count. -/
def typeAt (params : List Value) (index : Nat) (slot : String) : Except Error MessageType := do
  return Flags.truncate (← Value.param Value.int? params index slot).toBitVec

/-- A filter by flags, of which the known bits count. -/
def flagsAt (params : List Value) (index : Nat) (slot : String) : Except Error MessageFlag := do
  return Flags.truncate ((← Value.param Value.int? params index slot).toBitVec.truncate 8)

/-- The request that a reply answers, and the messages after its parameters. -/
def ofReply (slot : String) (params : List Value) :
    Except Error (BacklogRequest × List Value) := do
  let bufferAt := Value.param Value.bufferId? params
  let msgAt := Value.param Value.msgId? params
  let intAt := Value.param Value.int? params
  let messagesAt := Value.param Value.list? params
  match slot with
  | "receiveBacklog" =>
    let request := buffer (← bufferAt 0 slot) (← msgAt 1 slot) (← msgAt 2 slot) (← intAt 3 slot)
      (← intAt 4 slot)
    return (request, ← messagesAt 5 slot)
  | "receiveBacklogFiltered" =>
    let request := bufferFiltered (← bufferAt 0 slot) (← msgAt 1 slot) (← msgAt 2 slot)
      (← intAt 3 slot) (← intAt 4 slot) (← typeAt params 5 slot) (← flagsAt params 6 slot)
    return (request, ← messagesAt 7 slot)
  | "receiveBacklogForward" =>
    let request := bufferForward (← bufferAt 0 slot) (← msgAt 1 slot) (← msgAt 2 slot)
      (← intAt 3 slot) (← typeAt params 4 slot) (← flagsAt params 5 slot)
    return (request, ← messagesAt 6 slot)
  | "receiveBacklogAll" =>
    let request := all (← msgAt 0 slot) (← msgAt 1 slot) (← intAt 2 slot) (← intAt 3 slot)
    return (request, ← messagesAt 4 slot)
  | "receiveBacklogAllFiltered" =>
    let request := allFiltered (← msgAt 0 slot) (← msgAt 1 slot) (← intAt 2 slot) (← intAt 3 slot)
      (← typeAt params 4 slot) (← flagsAt params 5 slot)
    return (request, ← messagesAt 6 slot)
  | _ => throw (.unknownMethod className slot)

/-- The messages of a reply; entries that are not messages are skipped. -/
def messages (entries : List Value) : List Message := entries.filterMap Value.message?

end BacklogRequest
end Datastream

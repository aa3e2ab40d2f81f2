import AlertDetail.Calendar.ZoneNames
import AlertDetail.Command.Basic
import AlertDetail.Http.Wire
import Std.Async.DNS
import Std.Async.System
import Std.Async.TCP
import Std.Async.Timer
import Std.Time.DateTime.Timestamp
import Std.Time.Zoned.Database

/-!
# The program

The command with the real files, clock, time zones, environment and network. Only plain connections
are made; an address that asks for a secure one counts as one where nobody replies. Zones outside
the table are read from the time zone database of the system.
-/

namespace AlertDetail.Program

open Std.Async

/-- Why a file could not be read. -/
def faultOf : IO.Error → FileFault
  | .noFileOrDirectory .. => .missing
  | .inappropriateType _ code _ => if code = 21 then .isFolder else .notFolder
  | .invalidArgument _ code _ => if code = 22 then .endedName else .tooLong
  | cause => .other (toString cause)

/-- The text of a file. -/
def readFile (name : String) : IO (Except FileFault String) := do
  try
    let bytes ← IO.FS.readBinFile name
    match String.fromUTF8? bytes with
    | some text => return .ok text
    | none => return .error .notText
  catch cause => return .error (faultOf cause)

/-- Names of environment files in a folder and those around it, the nearest first. -/
def supplyNames (folder : String) : List String :=
  (List.range (Text.pieces '/' folder.toList).length).map fun levels =>
    .join (List.replicate levels "../") ++ ".env"

/-- The nearest environment file. -/
def readSupply : IO (Option String) := do
  let names := supplyNames (← IO.currentDir).toString
  for name in names do
    match ← readFile name with
    | .ok text => return some text
    | .error _ => pure ()
  return none

/-- The changes that a rule brings to the clocks of a zone in a year, the earlier one first. -/
def changesInYear (rule : Std.Time.TimeZone.RecurringRule) (year : Int) : List (Int × Int) :=
  match rule.dst with
  | some ⟨_, summer, some start, some stop⟩ =>
    let change (yearly : Std.Time.TimeZone.TransitionRule)
        (before after : Std.Time.TimeZone.Offset) : Int × Int :=
      let day := (yearly.spec.toEpochDay (.ofInt year)).val
      (day * daySeconds + yearly.time.val - before.second.val, after.second.val)
    let changes := [change start rule.stdOffset summer, change stop summer rule.stdOffset]
    changes.mergeSort fun change change' => decide (change.1 ≤ change'.1)
  | _ => []

/-- The zone that rules describe, with the yearly changes spelled out up to the year 2099. -/
def zoneOf (name : String) (rules : Std.Time.TimeZone.ZoneRules) : Zone :=
  let decreed := rules.transitions.toList.map fun transition =>
    (transition.time.val, transition.localTimeType.gmtOffset.second.val)
  let years := (List.range 130).map fun n => 1970 + Int.ofNat n
  let yearly := rules.transitionRule.elim [] fun rule => years.flatMap (changesInYear rule)
  { name := name
    first := rules.initialLocalTimeType.gmtOffset.second.val
    changes := decreed ++ yearly.filter fun change =>
      decreed.getLast?.all fun last => decide (last.1 < change.1) }

/-- The zone with a name. -/
def readZone (name : String) : IO (Option Zone) := do
  if let some zone := Zone.ofTable? name then return some zone
  if !Zone.isListed name then return none
  try
    return some (zoneOf name (← Std.Time.Database.defaultGetZoneRules name))
  catch _ => return none

/-- Network addresses of a host. -/
def resolve : Host → Async (List Std.Net.IPAddr)
  | .bytes address =>
    let part (place : Nat) : UInt8 := UInt8.ofNat (address / Nat.pow 256 place % 256)
    return [.v4 (.ofParts (part 3) (part 2) (part 1) (part 0))]
  | .groups values =>
    let part (place : Nat) : UInt16 := UInt16.ofNat (values.getD place 0)
    return [.v6 (.ofParts (part 0) (part 1) (part 2) (part 3) (part 4) (part 5) (part 6) (part 7))]
  | .name label => do return (← DNS.getAddrInfo label "").toList

/-- A network address with the number of a service. -/
def socketAddress (address : Std.Net.IPAddr) (service : UInt16) : Std.Net.SocketAddress :=
  match address with
  | .v4 address => .v4 ⟨address, service⟩
  | .v6 address => .v6 ⟨address, service⟩

/-- Everything that a connection brings until it is closed. -/
partial def receiveAll (client : TCP.Socket.Client) (done : ByteArray) : Async ByteArray := do
  match ← client.recv? 65536 with
  | some bytes => receiveAll client (done ++ bytes)
  | none => return done

/-- The reply at one network address. -/
def exchange (request : Http.Request) (address : Std.Net.SocketAddress) :
    Async (Option Http.Reply) := do
  let client ← TCP.Socket.Client.mk
  client.connect address
  client.send request.wireText.toUTF8
  return Http.Reply.ofBytes? (← receiveAll client .empty).toList

/-- The reply to a request: that of the first network address where somebody replies. -/
def deliver (request : Http.Request) : Async (Option Http.Reply) := do
  if request.url.scheme ≠ "http" then return none
  let some host := request.url.host | return none
  let service := UInt16.ofNat (request.url.service.getD 80)
  for address in ← resolve host do
    try
      match ← exchange request (socketAddress address service) with
      | some reply => return some reply
      | none => pure ()
    catch _ => pure ()
  return none

/-- The reply to a request, if it comes in time. -/
def send (seconds : Nat) (request : Http.Request) : IO (Option Http.Reply) := do
  let late : Async (Option Http.Reply) := do
    Std.Async.sleep (.ofNat (seconds * 1000))
    return none
  try
    (Async.race (deliver request) late).block
  catch _ => return none

/-- The present in epoch milliseconds. -/
def now : IO Int := do
  return (← Std.Time.Timestamp.now).toMillisecondsSinceUnixEpoch.val

/-- The real surroundings. Of the zones only the one that is asked for is read. -/
def surroundings : IO (Surroundings IO) := do
  let names := (← Std.Internal.UV.System.osEnviron).toList
  let around : Surroundings IO := {
    environment := names
    supply := readSupply
    read := readFile
    zones := Zone.ofTable?
    send := send Config.defaultTimeout
    now := now }
  let (environment, file) ← Command.settings around
  let asked :=
    Text.trim (Config.zoneName environment.setting? (file.elim {} ConfigOverrides.ofText))
  let zone ← readZone asked
  let around := { around with zones := fun name => if name = asked then zone else none }
  match ← (Command.configure around).run with
  | .ok config => return { around with send := send config.timeout }
  | .error _ => return around

end AlertDetail.Program

/-- Run the command. -/
def main (words : List String) : IO UInt32 := do
  let result ← AlertDetail.Command.run (← AlertDetail.Program.surroundings) words
  IO.print result.printed
  (← IO.getStderr).putStr result.complaint
  return UInt32.ofNat result.code

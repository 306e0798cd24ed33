import Dnsmeter.Sender
import Dnsmeter.Lib.Run

/-!
# The command line and the load steps (`dns_sender.cpp`)

`getParameter` reads the command line into the object, `openFiles` loads the payload, and `main` then
runs one load step for each entry of `rates`. What ppl7 makes of an argument vector, a host name, a
network or a number is a parameter (`Ppl7Env`), and so are the files.

Of `openCSVFile` only whether it raises is modelled.
-/

namespace Dnsmeter

/-- What the program takes from ppl7 to read its command line. -/
structure Ppl7Env where
  haveArgv : List Bytes → String → Bool
  getArgv : List Bytes → String → Bytes
  /-- `GetHostByName` with `af_inet`: the IPv4 addresses of a host. -/
  getHostByName : Bytes → Except Abort (List IPAddress)
  /-- `IPNetwork::set`; `none` for a network that is not IPv4. -/
  setNetwork : Bytes → Except Abort (Option IPNetwork)
  /-- `Array::explode`: the parts of a text between the delimiters. -/
  explode : Bytes → String → List Bytes
  /-- `String::pregMatch`: the whole match and its groups. -/
  pregMatch : String → Bytes → Option (List Bytes)
  toInt : Bytes → Int32
  toUnsignedInt64 : Bytes → UInt64

/-- The object with the fields that only `getParameter`, `openFiles` and `main` use. -/
structure Settings extends DNSSender where
  timeout : Int32
  rates : List Bytes
  csvFileName : Bytes
  queryFilename : Bytes
  ignoreResponses : Bool

/-- The constructor. -/
def Settings.new : Settings where
  toDNSSender := DNSSender.new
  timeout := 2
  rates := []
  csvFileName := []
  queryFilename := []
  ignoreResponses := false

/-- How the set-up ends other than by returning 0. -/
inductive Failure where
  /-- `msg` is printed, and the exception if there is one; 1 is returned. -/
  | returns (msg : String) (e : Option Abort)
  /-- Undefined behaviour. -/
  | abort (e : Abort)
  /-- A loop has not ended within the passes given. -/
  | running
deriving DecidableEq, Repr

/-- `catch (const ppl7::Exception& e)` around a call. -/
def catching {α : Type} (msg : String) : Except Abort α → Except Failure α
  | .ok a => .ok a
  | .error e => .error (if e.isException then .returns msg (some e) else .abort e)

namespace Settings

/-! ## `getParameter` -/

section
variable (env : Ppl7Env) (argv : List Bytes)

/-- The host and the port in the value of `-z`. -/
def hostAndPort (tmp : Bytes) : Except Abort (Bytes × Int32) :=
  match env.explode tmp ":" with
  | [host, port] => .ok (host, env.toInt port)
  | [host] => .ok (host, 53)
  | _ => .error (.invalidCommandlineParameter "-z IP:PORT")

def getTarget (s : Settings) : Except Abort Settings :=
  if !env.haveArgv argv "-z" then
    .error (.missingCommandlineParameter "target IP/hostname or port missing (-z IP:PORT)")
  else do
    let (host, port) ← hostAndPort env (env.getArgv argv "-z")
    if port < 1 ∨ port > 65535 then
      .error (.invalidCommandlineParameter "-z IP:PORT, Invalid Port")
    else do
      match ← env.getHostByName host with
      | ip :: _ => return { s with targetIP := ip, targetPort := port }
      | [] => .error (.invalidCommandlineParameter
        "-z IP:PORT, Invalid IP or could not resolve Hostname")

/-- `getSource`: the type of `SourceIP` leaves no other family than IPv4. -/
def getSource (s : Settings) : Except Abort Settings :=
  if env.haveArgv argv "-s" then
    let tmp := toLowerCase (env.getArgv argv "-s")
    if tmp = ascii "pcap" then .ok { s with spoofFromPcap := true, spoofingEnabled := true }
    else do
      match ← env.setNetwork tmp with
      | some net => return { s with sourceNet := net, spoofingEnabled := true }
      | none => .error (.unsupportedIPFamily "only IPv4 works")
  else do
    match ← env.getHostByName (env.getArgv argv "-q") with
    | ip :: _ => return { s with sourceIP := ip, spoofingEnabled := false }
    | [] => .error (.invalidCommandlineParameter
      "-q HOST, Invalid IP or could not resolve Hostname")

/-- The loop of `getQueryRates`; `i` wraps around. -/
def rangeRates (last step : UInt64) : Nat → UInt64 → Option (List Bytes)
  | 0, _ => none
  | fuel + 1, i =>
    if i ≤ last then do
      let rest ← rangeRates last step fuel (i + step)
      return ascii (toString i.toNat) :: rest
    else some []

/-- `getQueryRates`; `none` if the loop has not ended within `fuel` passes. -/
def getQueryRates (fuel : Nat) (queryRates : Bytes) : Option (List Bytes) :=
  if queryRates = [] then some [ascii "0"] else
  match env.pregMatch "/^([0-9]+)-([0-9]+),([0-9]+)$" queryRates with
  | some groups =>
    let group := fun i => env.toUnsignedInt64 (groups.getD i [])
    rangeRates (group 2) (group 3) fuel (group 1)
  | none => some (env.explode queryRates ",")

/-- `if (!x) x = d;` -/
def orDefault (x d : Int32) : Int32 := if x = 0 then d else x

/-- The part of `getParameter` behind `getTarget` and `getSource`. -/
def getNumbers (fuel : Nat) (s : Settings) : Except Failure Settings :=
  let rate := env.toInt (env.getArgv argv "-d")
  if env.haveArgv argv "-d" ∧ (rate < 0 ∨ rate > 100) then
    .error (.returns "ERROR: DNSSEC-Rate must be an integer between 0 and 100 (-d #)\n\n" none)
  else if env.getArgv argv "-p" = [] then
    .error (.returns "ERROR: Payload-File is missing (-p FILENAME)\n\n" none)
  else match getQueryRates env fuel (env.getArgv argv "-r") with
    | none => .error .running
    | some rates => .ok { s with
        runtime := orDefault (env.toInt (env.getArgv argv "-l")) 10
        timeout := orDefault (env.toInt (env.getArgv argv "-t")) 2
        threadCount := orDefault (env.toInt (env.getArgv argv "-n")) 1
        csvFileName := env.getArgv argv "-c"
        queryFilename := env.getArgv argv "-p"
        dnssecRate := if env.haveArgv argv "-d" then rate.toInt else s.dnssecRate
        rates }

/-- `getParameter`; the help follows each message. -/
def getParameter (fuel : Nat) (s : Settings) : Except Failure Settings :=
  if env.haveArgv argv "-q" ∧ env.haveArgv argv "-s" then
    .error (.returns "ERROR: could not use parameters -q and -s together\n\n" none)
  else if !env.haveArgv argv "-q" ∧ !env.haveArgv argv "-s" then
    .error (.returns ("ERROR: source IP/hostname or network for source address spoofing missing " ++
      "(-q IP | -s NETWORK)\n\n") none)
  else do
    let s := { s with
      ignoreResponses := env.haveArgv argv "--ignore"
      interfaceName := if env.haveArgv argv "-e" then env.getArgv argv "-e" else s.interfaceName }
    let s ← catching "ERROR: missing or invalid parameter\n" (getTarget env argv s)
    let s ← catching "ERROR: missing or invalid parameter\n" (getSource env argv s)
    getNumbers env argv fuel s

end

/-! ## `openFiles` -/

/-- The files and the libraries they are read with. -/
structure Files where
  /-- `openCSVFile`. -/
  openCSVFile : Bytes → Except Abort Unit
  /-- The content of a file that can be opened. -/
  content : Bytes → Option Bytes
  resMkquery : ResMkquery
  openOffline : PcapOpenOffline
  /-- The memory of `compiled_query`. -/
  buf : Block 4096

/-- A file name as it appears in a message. -/
def text (name : Bytes) : String := String.ofList (name.map fun b => .ofNat b.toNat)

/-- The part of `openFiles` behind `if (CSVFileName.notEmpty())`. -/
def openCSV (files : Files) (s : Settings) : Except Failure Unit :=
  if s.csvFileName = [] then .ok () else
  catching "ERROR: could not open CSV-file for writing\n" (files.openCSVFile s.csvFileName)

def openFiles (files : Files) (s : Settings) : Except Failure Settings := do
  openCSV files s
  let payload ← catching
    "ERROR: could not open payload file or it does not contain any queries\n"
    (s.payload.openQueryFile files.resMkquery files.openOffline files.buf (text s.queryFilename)
      (files.content s.queryFilename))
  return { s with payload }

end Settings

/-! ## The load steps of `main` -/

/-- The object when `main` calls `prepareThreads`: the receiver is there unless `--ignore` is given. -/
def Settings.ready (s : Settings) (receiver : Option DNSReceiverThread) : DNSSender :=
  { s.toDNSSender with receiver }

/-- The load steps of `main`, one for each of the rates, from the state `s` behind `prepareThreads`
to a state in which every thread has left its `run`. A `run` that raises ends the program. -/
inductive LoadSteps (s : DNSSender) : List Int32 → DNSSender → Prop where
  | nil : LoadSteps s [] s
  | step {rates : List Int32} {u v : DNSSender} {r : Int32} {procNetDev : Bytes}
      {acts : List (Nat × Action)} : LoadSteps s rates u → u.run r procNetDev = .ok v →
      (∀ w ∈ (Run.trace (fun s a => s.act a.1 a.2) v acts).1.threadpool, w.state = .idle) →
      LoadSteps s (rates ++ [r]) (Run.trace (fun s a => s.act a.1 a.2) v acts).1

end Dnsmeter

/-
Module: PeerCache.Program.Launch
Purpose: How the program starts: what it says, and whether it comes to serve.
Main exports:
  Notice, Ending, Launch, Launch.of, Settings.node?, Settings.pathsClash
-/
import PeerCache.Node
import PeerCache.Program.CommandLine
import PeerCache.Program.Machine
import PeerCache.Program.Squares

/-!
The program says what it does in notices.  It ends before the first of them if its
arguments are refused, after its groups are registered if its paths clash, and after
the last of them if it cannot listen.  Otherwise it serves until it is stopped.  What a
notice quotes from the arguments cannot give commands to the terminal that shows the log.

Whether it can listen at an address is up to the machine.
-/

namespace PeerCache.Program

/-- What the program says while it starts. -/
inductive Notice where
  | starting (url : String)
  | peers (urls : List String)
  | alone
  | pool (url basePath : String) (replicas : Nat) (fingerprint : String)
  | peersSet (count : Nat)
  | group (name : String)
  | listening (address : String)
  | howToStop
deriving Repr, DecidableEq

/-- The wording of a notice. -/
def Notice.text : Notice → String
  | .starting url => "Starting node on " ++ url
  | .peers urls => "Peers: " ++ Text.quoteList urls
  | .alone => "Starting as a single node"
  | .pool url basePath replicas fingerprint =>
      "Peer pool for " ++ url ++ " serving " ++ basePath ++ " (replicas=" ++ toString replicas ++
        ", fingerprint=" ++ fingerprint ++ ")"
  | .peersSet count => "Peer set updated: " ++ toString count ++ " peer(s)"
  | .group name => "Registered cache group: " ++ name
  | .listening address => "HTTP server listening on " ++ address
  | .howToStop => "Press Ctrl+C to shutdown"

/-- A character of a log line.  Those that begin, or are, a command to a terminal are
escaped, so that a logged text cannot give one. -/
def loggedCharacter (character : Char) : List Char :=
  let digits := Text.hexDigits character.toNat
  if ['\x07', '\x08', '\x0c', '\x1b', '\x7f'].contains character then
    ['\\', 'x'] ++ List.replicate (2 - digits.length) '0' ++ digits
  else if 0x80 ≤ character.toNat ∧ character.toNat ≤ 0x9F then
    ['\\', 'u', '\x7b'] ++ digits ++ ['\x7d']
  else [character]

/-- The line on which a notice is logged. -/
def Notice.line (notice : Notice) : String :=
  "INFO " ++ String.ofList (notice.text.toList.flatMap loggedCharacter)

namespace Settings

/-- The pool of the node, before its peers are set. -/
def emptyPool (settings : Settings) : PeerPool :=
  .new settings.selfUrl settings.options

/-- The node that serves; none if its paths clash. -/
def node? (settings : Settings) : Option Node :=
  (Node.new? settings.selfUrl settings.selfUrl settings.options).map fun node =>
    (node.set settings.allPeers).register Squares.groupName

/-- Whether the paths of the node clash. -/
def pathsClash (settings : Settings) : Bool :=
  (Routes.ofBasePath? settings.emptyPool.options.basePath).isNone

/-- What is said while the node is built. -/
def buildNotices (settings : Settings) : List Notice :=
  let pool := settings.emptyPool
  [.starting settings.selfUrl,
    if settings.peers.isEmpty then .alone else .peers settings.peers,
    .pool pool.selfUrl pool.options.basePath pool.options.replicas pool.fingerprint,
    .peersSet settings.allPeers.length, .group Squares.groupName]

/-- What is said before the node listens. -/
def serveNotices (settings : Settings) : List Notice :=
  [.listening settings.bind.text, .howToStop]

/-- There is a node unless the paths clash. -/
theorem isNone_node? (settings : Settings) :
    settings.node?.isNone = settings.pathsClash := by
  simp [node?, Node.new?, pathsClash, emptyPool]

end Settings

/-- How a start ends. -/
inductive Ending where
  /-- There are too few arguments to mean anything. -/
  | usage
  | refused (fault : ArgumentFault)
  | pathsClash
  | cannotListen (error : OsError)
  /-- The program serves until it is stopped. -/
  | serving (settings : Settings)

namespace Ending

/-- The code that the program exits with; none while it serves. -/
def exitCode? : Ending → Option Nat
  | .usage => some 1
  | .refused _ => some 1
  | .pathsClash => some 101
  | .cannotListen _ => some 1
  | .serving _ => none

/-- How the program is to be called. -/
def usageLines (program : String) : List String :=
  ["Usage: " ++ program ++ " --bind <addr:port> [--peer <http://addr:port>]... " ++
      "[--base-path <path>] [--replicas <n>]",
    "Example: " ++ program ++ " --bind 127.0.0.1:8000",
    "Example: " ++ program ++ " --bind 127.0.0.1:8001 --peer http://127.0.0.1:8000"]

/-- What is said about the ending, line by line. -/
def complaint (program : String) : Ending → List String
  | .usage => usageLines program
  | .refused fault => ["Error: " ++ fault.message]
  | .pathsClash => ["the base path clashes with the public paths"]
  | .cannotListen error => ["Error: " ++ error.text]
  | .serving _ => []

end Ending

/-- A start of the program. -/
structure Launch where
  notices : List Notice
  ending : Ending

namespace Launch

/-- The start of a node with settings. -/
def ofSettings (machine : Machine) (settings : Settings) : Launch :=
  if settings.pathsClash then ⟨settings.buildNotices, .pathsClash⟩
  else
    ⟨settings.buildNotices ++ settings.serveNotices,
      match machine.bindFault? settings.bind with
      | some error => .cannotListen error
      | none => .serving settings⟩

/-- The start of the program with arguments. -/
def of (machine : Machine) (arguments : List String) : Launch :=
  if arguments.length < 2 then ⟨[], .usage⟩
  else
    match Settings.ofArguments arguments with
    | .error fault => ⟨[], .refused fault⟩
    | .ok settings => ofSettings machine settings

end Launch

end PeerCache.Program

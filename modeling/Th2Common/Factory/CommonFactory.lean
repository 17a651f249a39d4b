import Th2Common.Factory.Moves

/-! `CommonFactory`: where a factory looks for its two files, by default or as the
arguments of the program say. -/

namespace Th2
open Text
open ConnectionManager (logDebug)

abbrev VariablesMap : Type := Bytes → Option (List Bytes)

structure ProgramOptions where
  parse : List Bytes → Except Exn VariablesMap
  given : ∀ {args : List Bytes} {vm : VariablesMap}, parse args = .ok vm →
    ∀ name, vm name ≠ some []

/-- What the program runs on. A file may be another one, or missing, each time it is
looked for; nothing is at the empty path. -/
structure Machine where
  env : Environment
  amqp : Amqp
  protobuf : Protobuf
  files : Nat → Bytes → Option Bytes
  nowhere : ∀ n, files n [] = none
  address : Nat → Bytes
  options : ProgramOptions

structure CommonFactory where
  rabbitMQ : Bytes
  routerMQ : Bytes
  deriving DecidableEq

namespace CommonFactory

def configDefaultPath : Bytes := "/var/th2/config/"
def rabbitMqFileName : Bytes := "rabbitMQ.json"
def routerMqFileName : Bytes := "mq.json"

def slash (path file : Bytes) : Bytes :=
  if file.head? = some 47 then file
  else if path = [] ∨ path.getLast? = some 47 then path ++ file
  else path ++ utf8 "/" ++ file

/-- How a path goes to a stream: between quotes, with a backslash before each quote and backslash. -/
def quoted (path : Bytes) : Bytes :=
  utf8 "\"" ++ path.flatMap (fun c => if c = 34 ∨ c = 92 then [92, c] else [c]) ++ utf8 "\""

def getPath (m : Machine) (file : Bytes) : Prog Trace Fault Bytes := do
  emit (.stdout (utf8 "path: " ++ configDefaultPath ++ utf8 "\\" ++ file ++ utf8 "\n"))
  let path := slash configDefaultPath file
  emit (.stdout (utf8 "path: " ++ path ++ utf8 "\n"))
  let τ ← Prog.read
  Prog.when (m.files τ.length path).isNone do
    emit (.stdout (utf8 "File [" ++ quoted path ++ utf8 "] is not found \n"))
  return path

def construct (m : Machine) : Prog Trace Fault CommonFactory := do
  logDebug "Start constructor CommonFactory"
  emit (.stdout (utf8 "RABBIT_MQ_FILE_NAME: " ++ rabbitMqFileName ++ utf8 "\n"))
  let rabbitMQ ← getPath m rabbitMqFileName
  logDebug "init this->rabbitMQ = get_path(RABBIT_MQ_FILE_NAME)"
  emit (.stdout (utf8 "ROUTER_MQ_FILE_NAME: " ++ routerMqFileName ++ utf8 "\n"))
  let routerMQ ← getPath m routerMqFileName
  logDebug "init this->routerMQ = get_path(ROUTER_MQ_FILE_NAME)"
  return { rabbitMQ := rabbitMQ, routerMQ := routerMQ }

/-- `if (vm.count(name)) path = vm[name].as<std::vector<std::string>>()[0];` -/
def firstValue (vm : VariablesMap) (name : Bytes) : Except Fault Bytes :=
  match vm name with
  | none => .ok []
  | some val => deref val.head?

def createFromArguments (m : Machine) (argv : List Bytes) : Except Fault CommonFactory := do
  let vm ← match m.options.parse argv with
    | .ok vm => .ok vm
    | .error e => .error (.thrown e)
  let rabbitMQ ← firstValue vm "rabbitConfiguration"
  let routerMQ ← firstValue vm "messageRouterConfiguration"
  return { rabbitMQ := rabbitMQ, routerMQ := routerMQ }

def deployment (factory : CommonFactory) (m : Machine) : Deployment where
  env := m.env
  amqp := m.amqp
  protobuf := m.protobuf
  rmqPath := factory.rabbitMQ
  routerPath := factory.routerMQ
  rmqFile n := m.files n factory.rabbitMQ
  routerFile n := m.files n factory.routerMQ
  address := m.address

def byDefault : CommonFactory where
  rabbitMQ := "/var/th2/config/rabbitMQ.json"
  routerMQ := "/var/th2/config/mq.json"

theorem exec_getPath (m : Machine) (file : Bytes) (τ : Trace) :
    ∃ υ, (getPath m file).exec τ = (.ok (slash configDefaultPath file), τ ++ υ) ∧ Chatter υ := by
  let before : Trace := [.stdout (utf8 "path: " ++ configDefaultPath ++ utf8 "\\" ++ file ++ utf8 "\n"),
    .stdout (utf8 "path: " ++ slash configDefaultPath file ++ utf8 "\n")]
  have hbefore : Chatter before := (Chatter.single rfl).append (.single rfl)
  have hsaid : τ ++ before = τ ++ [.stdout (utf8 "path: " ++ configDefaultPath ++ utf8 "\\" ++ file ++
      utf8 "\n")] ++ [.stdout (utf8 "path: " ++ slash configDefaultPath file ++ utf8 "\n")] := by
    rw [List.append_assoc]
    rfl
  unfold getPath
  rw [Prog.exec_bind_ok (exec_emit _ _), Prog.exec_bind_ok (exec_emit _ _),
    Prog.exec_bind_ok (Prog.exec_read _), ← hsaid]
  by_cases hmissing : (m.files (τ ++ before).length (slash configDefaultPath file)).isNone = true
  · rw [Prog.exec_bind_ok ((Prog.exec_when_pos hmissing _ _).trans (exec_emit _ _)),
      List.append_assoc]
    exact ⟨_, rfl, hbefore.append (.single rfl)⟩
  · rw [Prog.exec_bind_ok (Prog.exec_when_neg hmissing _ _)]
    exact ⟨before, rfl, hbefore⟩

theorem exec_construct (m : Machine) (τ : Trace) :
    ∃ υ, (construct m).exec τ = (.ok byDefault, τ ++ υ) ∧ Chatter υ := by
  let start : Trace := [.log .debug "Start constructor CommonFactory",
    .stdout (utf8 "RABBIT_MQ_FILE_NAME: " ++ rabbitMqFileName ++ utf8 "\n")]
  let middle : Trace := [.log .debug "init this->rabbitMQ = get_path(RABBIT_MQ_FILE_NAME)",
    .stdout (utf8 "ROUTER_MQ_FILE_NAME: " ++ routerMqFileName ++ utf8 "\n")]
  let last : Trace := [.log .debug "init this->routerMQ = get_path(ROUTER_MQ_FILE_NAME)"]
  obtain ⟨υ, hυ, hrabbit⟩ := exec_getPath m rabbitMqFileName (τ ++ start)
  obtain ⟨ω, hω, hrouter⟩ := exec_getPath m routerMqFileName (τ ++ start ++ υ ++ middle)
  have hstart : Chatter start := (Chatter.single rfl).append (.single rfl)
  have hmiddle : Chatter middle := (Chatter.single rfl).append (.single rfl)
  refine ⟨start ++ υ ++ middle ++ ω ++ last, ?_,
    (((hstart.append hrabbit).append hmiddle).append hrouter).append (.single rfl)⟩
  have hfirst : τ ++ [.log .debug "Start constructor CommonFactory"] ++
      [.stdout (utf8 "RABBIT_MQ_FILE_NAME: " ++ rabbitMqFileName ++ utf8 "\n")] = τ ++ start := by
    rw [List.append_assoc]
    rfl
  have hsecond : τ ++ start ++ υ ++
      [.log .debug "init this->rabbitMQ = get_path(RABBIT_MQ_FILE_NAME)"] ++
      [.stdout (utf8 "ROUTER_MQ_FILE_NAME: " ++ routerMqFileName ++ utf8 "\n")] =
      τ ++ start ++ υ ++ middle := by
    rw [List.append_assoc]
    rfl
  unfold construct
  rw [Prog.exec_bind_ok (ConnectionManager.exec_logDebug _ _), Prog.exec_bind_ok (exec_emit _ _),
    hfirst, Prog.exec_bind_ok hυ, Prog.exec_bind_ok (ConnectionManager.exec_logDebug _ _),
    Prog.exec_bind_ok (exec_emit _ _), hsecond, Prog.exec_bind_ok hω,
    Prog.exec_bind_ok (ConnectionManager.exec_logDebug _ _), Prog.exec_pure]
  simp only [List.append_assoc]
  rfl

def chosen (m : Machine) (argv : List Bytes) : Except Fault CommonFactory :=
  if argv.length > 1 then createFromArguments m argv else .ok byDefault

end CommonFactory

end Th2

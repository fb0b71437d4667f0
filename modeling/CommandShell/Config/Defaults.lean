import CommandShell.Value

/-! # The default configuration -/

namespace CommandShell.Config

/-- The commands that a session registers at its start. -/
def defaultCommands : List String :=
  ["print", "obuffer", "commandline", "linecount", "help", "clear", "service", "findtext"]

/-- The configuration under every override. -/
def defaults : Value := .record [
  ("engine", .record [("step_delay_ms", .int 50), ("history_limit", .int 100)]),
  ("watchdog", .record [
    ("enabled", .bool true),
    ("interval_ms", .int 100),
    ("critical_services", .list [.str "commandexec", .str "commands"])]),
  ("diagnostics", .record [
    ("enabled", .bool true),
    ("timestamp_format", .str "%d/%m/%Y %H:%M:%S")]),
  ("shell", .record [("transcript_limit", .int 0), ("event_limit", .int 1000)]),
  ("commands", .record [("registered", .list (defaultCommands.map .str))])]

end CommandShell.Config

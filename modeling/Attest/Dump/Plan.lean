import Attest.Dump.Rule
import Attest.Plan.Basic

/-!
Planned steps as logs show them.
-/

namespace Attest

def Matcher.dump : Matcher → Dump
  | .builtIn => .word "Builtin"
  | .pattern regex => .tuple "Pattern" [.quoted regex.pattern]
  | .custom _ => .word "Custom"

def PlannedStep.dump (s : PlannedStep) : Dump :=
  .record "CompiledStep" [
    ("kind", s.rule.dump),
    ("matcher", s.matcher.dump),
    ("message_key", .quoted s.messageKey),
    ("explicit_message", .ofBool s.explicitMessage),
    ("args", .list (s.arguments.map .quoted))] false

end Attest

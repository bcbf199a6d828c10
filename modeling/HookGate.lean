import HookGate.Main
import HookGate.Proofs.ArgumentGrammar
import HookGate.Proofs.AuditedRun
import HookGate.Proofs.BuiltinRules
import HookGate.Proofs.ConfigFile
import HookGate.Proofs.GovernedFields
import HookGate.Proofs.RawInput

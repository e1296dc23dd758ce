import ScriptStack.Command.Run
import ScriptStack.ErrorObject.Json
import ScriptStack.Files.Folder
import ScriptStack.Item.Index
import ScriptStack.Main
import ScriptStack.Proofs.Item.Truth
import ScriptStack.Proofs.SignMagnitude.Word
import ScriptStack.Stack.Step
import ScriptStack.Proofs.SignMagnitude.Padding
import ScriptStack.Proofs.Stack.Depth
import ScriptStack.Proofs.Stack.Balance
import ScriptStack.Proofs.Stack.Numbers
import ScriptStack.Proofs.Hex.Reading
import ScriptStack.Proofs.Hex.Writing
import ScriptStack.Proofs.Hex.Canonical
import ScriptStack.Proofs.Item.Order
import ScriptStack.Proofs.Item.Sorting
import ScriptStack.Proofs.Item.Index
import ScriptStack.Proofs.Integer.Decimal
import ScriptStack.Proofs.Stack.Journal
import ScriptStack.Proofs.Command.Operands
import ScriptStack.Proofs.Command.RoundTrip
import ScriptStack.Proofs.Log.Threshold
import ScriptStack.Proofs.Settings.Fault
import ScriptStack.Proofs.Command.Verbosity
import ScriptStack.Proofs.Command.Notes
import ScriptStack.Proofs.Command.Failures
import ScriptStack.Proofs.Command.Agreement
import ScriptStack.Proofs.Json.Text
import ScriptStack.Proofs.Json.Number
import ScriptStack.Proofs.ErrorObject.RoundTrip
import ScriptStack.Proofs.SignMagnitude.Format
import ScriptStack.Proofs.SignMagnitude.Negation
import ScriptStack.Proofs.Command.Spelling
import ScriptStack.Proofs.Toml.Quote
import ScriptStack.Proofs.Toml.Token
import ScriptStack.Proofs.Toml.Flat
import ScriptStack.Proofs.Settings.Layout
import ScriptStack.Proofs.Command.Warning
import ScriptStack.Proofs.Log.Name
import ScriptStack.Proofs.Settings.Layers
import ScriptStack.Proofs.ErrorObject.Cut
import ScriptStack.Proofs.Json.Grammar
import ScriptStack.Proofs.Json.Reading
import ScriptStack.Proofs.ErrorObject.Shape
import ScriptStack.Proofs.ErrorObject.Display
import ScriptStack.Proofs.Command.Quoting

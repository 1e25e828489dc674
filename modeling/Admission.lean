import Admission.Action
import Admission.Chat
import Admission.Condition.Compare
import Admission.Condition.Evaluate
import Admission.Condition.Normal
import Admission.Condition.Operator
import Admission.Condition.Path
import Admission.Decision
import Admission.Engine.Basic
import Admission.Engine.Enforce
import Admission.Engine.Lifecycle
import Admission.Fault
import Admission.File.Path
import Admission.File.Tree
import Admission.Host.Basic
import Admission.Host.Guards
import Admission.Host.Predicate
import Admission.Host.Walk
import Admission.Json.Printer
import Admission.Json.Reader
import Admission.Log
import Admission.Number.Double
import Admission.Number.Integer
import Admission.Number.Numeral
import Admission.Number.Shortest
import Admission.Operation.Authority
import Admission.Operation.Basic
import Admission.Operation.Perform
import Admission.Pattern.Class
import Admission.Pattern.Lead
import Admission.Pattern.Match
import Admission.Pattern.Parser
import Admission.Pattern.Syntax
import Admission.Proofs.Condition.Canonical
import Admission.Proofs.Condition.Copied
import Admission.Proofs.Condition.Enumeration
import Admission.Proofs.Condition.Faults
import Admission.Proofs.Condition.Path
import Admission.Proofs.Condition.Whole
import Admission.Proofs.Decision
import Admission.Proofs.Engine.Alike
import Admission.Proofs.Engine.Binding
import Admission.Proofs.Engine.Course
import Admission.Proofs.Engine.Disposal
import Admission.Proofs.Engine.Guards
import Admission.Proofs.Engine.Loading
import Admission.Proofs.Engine.Reach
import Admission.Proofs.Engine.Restart
import Admission.Proofs.Engine.Run
import Admission.Proofs.File.Place
import Admission.Proofs.File.Replace
import Admission.Proofs.File.Tree
import Admission.Proofs.Host.Account
import Admission.Proofs.Host.Descent
import Admission.Proofs.Host.Enquiry
import Admission.Proofs.Host.Guards
import Admission.Proofs.Host.Keeping
import Admission.Proofs.Host.Layer
import Admission.Proofs.Host.Options
import Admission.Proofs.Host.Picture
import Admission.Proofs.Host.Reply
import Admission.Proofs.Host.Resolver
import Admission.Proofs.Host.Tree
import Admission.Proofs.Host.Walk
import Admission.Proofs.Json.Number
import Admission.Proofs.Json.Reader
import Admission.Proofs.Json.Text
import Admission.Proofs.Json.Value
import Admission.Proofs.Json.Writable
import Admission.Proofs.Number.Integer
import Admission.Proofs.Number.Rounding
import Admission.Proofs.Operation.Agreement
import Admission.Proofs.Operation.Call
import Admission.Proofs.Operation.Edit
import Admission.Proofs.Operation.Halfway
import Admission.Proofs.Operation.Lazily
import Admission.Proofs.Operation.Reachable
import Admission.Proofs.Operation.SwitchOff
import Admission.Proofs.Operation.Twin
import Admission.Proofs.Rule.Canonical
import Admission.Proofs.Rule.Decisive
import Admission.Proofs.Rule.File
import Admission.Proofs.Rule.Fixed
import Admission.Proofs.Rule.InForce
import Admission.Proofs.Rule.Order
import Admission.Proofs.Rule.Saving
import Admission.Proofs.Rule.Storable
import Admission.Proofs.Rule.Supply
import Admission.Proofs.Rule.Target
import Admission.Proofs.Rule.Turn
import Admission.Proofs.Rule.Unedited
import Admission.Proofs.Store.Ending
import Admission.Proofs.Store.Frame
import Admission.Proofs.Store.Invariant
import Admission.Proofs.Store.Overlay
import Admission.Proofs.Store.Reorder
import Admission.Proofs.Store.Replace
import Admission.Proofs.Store.Storable
import Admission.Proofs.Table
import Admission.Proofs.Text.Split
import Admission.Proofs.Text.Trim
import Admission.Proofs.Value.Copy
import Admission.Proofs.Value.Kinds
import Admission.Proofs.Value.Origin
import Admission.Proofs.Web.Access
import Admission.Proofs.Web.Framework
import Admission.Proofs.Web.Update
import Admission.Resolver
import Admission.Rule.Basic
import Admission.Rule.File
import Admission.Rule.Normal
import Admission.Rule.Saving
import Admission.Rule.Supply
import Admission.Schema
import Admission.Session
import Admission.Setting.Basic
import Admission.Setting.EnvFile
import Admission.Store
import Admission.Table
import Admission.Target
import Admission.Text.Blank
import Admission.Text.Case
import Admission.Text.CharName
import Admission.Text.CharName.Ancient
import Admission.Text.CharName.Asian
import Admission.Text.CharName.Letters
import Admission.Text.CharName.Pictures
import Admission.Text.CharName.Symbols
import Admission.Text.Digit
import Admission.Text.Identifier
import Admission.Text.Printable
import Admission.Text.Quoted
import Admission.Text.Range
import Admission.Text.Split
import Admission.Text.Word
import Admission.Trace
import Admission.Value.Basic
import Admission.Value.Display
import Admission.Value.Equal
import Admission.Web.Api
import Admission.Web.Target
import Admission.Web.Usual

import SemanticClient.Main
import SemanticClient.Session.Call
import SemanticClient.Spec.Alias
import SemanticClient.Proofs.Crypto.Aes
import SemanticClient.Proofs.Crypto.Base64
import SemanticClient.Proofs.Crypto.Chaining
import SemanticClient.Proofs.Crypto.Utf8
import SemanticClient.Proofs.Crypto.Credential
import SemanticClient.Proofs.Spec.Draft
import SemanticClient.Proofs.Spec.Lexical
import SemanticClient.Proofs.Spec.Writing
import SemanticClient.Proofs.Spec.Forms
import SemanticClient.Proofs.Spec.Segments
import SemanticClient.Proofs.Spec.Bare
import SemanticClient.Proofs.Spec.Splicing
import SemanticClient.Proofs.Spec.Orders
import SemanticClient.Proofs.Session.Logout
import SemanticClient.Proofs.Binding.Request
import SemanticClient.Proofs.Binding.Progress
import SemanticClient.Proofs.Binding.Paging
import SemanticClient.Proofs.CommandLine.Agreement
import SemanticClient.Proofs.Request.Wire
import SemanticClient.Proofs.Binding.Naming
import SemanticClient.Proofs.Session.Failure
import SemanticClient.Proofs.Session.LoginState
import SemanticClient.Proofs.Session.Sending
import SemanticClient.Proofs.Binding.Visible
import SemanticClient.Proofs.Binding.Alerts
import SemanticClient.Proofs.Binding.Resending
import SemanticClient.Proofs.Binding.Pages
import SemanticClient.Proofs.Binding.Rebinding
import SemanticClient.Proofs.Protocol.RoundTrip
import SemanticClient.Proofs.Request.OfSpecs
import SemanticClient.Proofs.Variable.Paths
import SemanticClient.Proofs.Variable.Producers
import SemanticClient.Proofs.Variable.Conversion
import SemanticClient.Proofs.Request.PrimaryKeys
import SemanticClient.Proofs.Request.Arguments
import SemanticClient.Proofs.Variable.Literals
import SemanticClient.Proofs.Session.Committing
import SemanticClient.Proofs.Request.Calls
import SemanticClient.Proofs.Binding.Shown
import SemanticClient.Proofs.Request.QueryForms
import SemanticClient.Proofs.Protocol.Rows
import SemanticClient.Proofs.Protocol.Texts
import SemanticClient.Proofs.Binding.Overlay

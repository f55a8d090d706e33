import CredentialRotation.Binding.Rotator
import CredentialRotation.Kubeconfig.Injector
import CredentialRotation.Login.Client
import CredentialRotation.Net.Endpoint
import CredentialRotation.Provisioning.Client
import CredentialRotation.Time.Clock
import CredentialRotation.Trace.Logging
import CredentialRotation.Trace.Span
import CredentialRotation.Proofs.Binding.Calls
import CredentialRotation.Proofs.Time.Shift
import CredentialRotation.Proofs.Binding.Activity
import CredentialRotation.Proofs.Binding.Coverage
import CredentialRotation.Proofs.Token.Validity
import CredentialRotation.Proofs.Rotation.Keeping
import CredentialRotation.Proofs.Text.Utf8
import CredentialRotation.Proofs.Web.Form
import CredentialRotation.Proofs.Login.Course
import CredentialRotation.Proofs.Login.Nonce
import CredentialRotation.Proofs.Login.Cause
import CredentialRotation.Proofs.Login.Silence
import CredentialRotation.Proofs.Kubeconfig.Updates
import CredentialRotation.Proofs.Kubeconfig.Surroundings
import CredentialRotation.Proofs.Kubeconfig.Chain
import CredentialRotation.Proofs.Binding.History
import CredentialRotation.Proofs.Binding.Issuing
import CredentialRotation.Proofs.Binding.Lifetime
import CredentialRotation.Proofs.Web.Path
import CredentialRotation.Proofs.Web.Parts
import CredentialRotation.Proofs.Provisioning.Address
import CredentialRotation.Proofs.Login.Requests
import CredentialRotation.Proofs.Web.Sending
import CredentialRotation.Proofs.Rotation.Renewing
import CredentialRotation.Proofs.Rotation.Holding
import CredentialRotation.Proofs.Rotation.Legible
import CredentialRotation.Proofs.Text.Base64
import CredentialRotation.Proofs.Login.ProofKey
import CredentialRotation.Proofs.Provisioning.Pass
import CredentialRotation.Proofs.Binding.Retention
import CredentialRotation.Proofs.Rotation.Published
import CredentialRotation.Proofs.Time.Calendar
import CredentialRotation.Proofs.Number.Decimal
import CredentialRotation.Proofs.Json.Quoting
import CredentialRotation.Proofs.Json.Printing
import CredentialRotation.Proofs.Json.Values
import CredentialRotation.Proofs.Token.Encoding
import CredentialRotation.Proofs.Time.Written
import CredentialRotation.Proofs.Binding.Reload
import CredentialRotation.Proofs.Time.Ends
import CredentialRotation.Proofs.Rotation.Due
import CredentialRotation.Proofs.Binding.Deadline
import CredentialRotation.Proofs.Rotation.Derived
import CredentialRotation.Proofs.Binding.Handover
import CredentialRotation.Proofs.Binding.WholeSeconds
import CredentialRotation.Proofs.Web.Front
import CredentialRotation.Proofs.Provisioning.Teardown
import CredentialRotation.Proofs.Json.Fields
import CredentialRotation.Proofs.Provisioning.Naming
import CredentialRotation.Proofs.Kubeconfig.Faults
import CredentialRotation.Proofs.Yaml.Escapes
import CredentialRotation.Proofs.Yaml.Page
import CredentialRotation.Proofs.Yaml.Scalars
import CredentialRotation.Proofs.Yaml.Printing
import CredentialRotation.Proofs.Kubeconfig.Tokens
import CredentialRotation.Proofs.Json.Numbers
import CredentialRotation.Proofs.Kubeconfig.Skipping
import CredentialRotation.Proofs.Text.Blank
import CredentialRotation.Proofs.Token.Dates
import CredentialRotation.Proofs.Certificate.Leaf
import CredentialRotation.Proofs.Binding.PolicyRecord
import CredentialRotation.Proofs.Rotation.StatusRecord
import CredentialRotation.Proofs.Login.Listening
import CredentialRotation.Proofs.Login.Failures
import CredentialRotation.Proofs.Login.Scopes
import CredentialRotation.Proofs.Certificate.Bundle
import CredentialRotation.Proofs.Rotation.Signature

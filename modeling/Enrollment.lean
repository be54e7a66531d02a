import Enrollment.Main
import Enrollment.Proofs.Authority
import Enrollment.Proofs.Base64
import Enrollment.Proofs.Calls
import Enrollment.Proofs.Certificates
import Enrollment.Proofs.Changes
import Enrollment.Proofs.Collection
import Enrollment.Proofs.Configured
import Enrollment.Proofs.Correlation
import Enrollment.Proofs.Decoding
import Enrollment.Proofs.Deferral
import Enrollment.Proofs.Delivery
import Enrollment.Proofs.Der
import Enrollment.Proofs.ExitStatus
import Enrollment.Proofs.Faults
import Enrollment.Proofs.Files
import Enrollment.Proofs.Frame
import Enrollment.Proofs.Genuine
import Enrollment.Proofs.Https
import Enrollment.Proofs.Numeral
import Enrollment.Proofs.Operation
import Enrollment.Proofs.Padding
import Enrollment.Proofs.Passwords
import Enrollment.Proofs.Pem
import Enrollment.Proofs.Petition
import Enrollment.Proofs.PrivateKey
import Enrollment.Proofs.Progress
import Enrollment.Proofs.Records
import Enrollment.Proofs.Relay
import Enrollment.Proofs.Renewal
import Enrollment.Proofs.Repetition
import Enrollment.Proofs.Replies
import Enrollment.Proofs.Reporting
import Enrollment.Proofs.RequestForms
import Enrollment.Proofs.Requests
import Enrollment.Proofs.Results
import Enrollment.Proofs.Secrecy
import Enrollment.Proofs.Stores
import Enrollment.Proofs.Stream
import Enrollment.Proofs.Telling
import Enrollment.Proofs.Template
import Enrollment.Proofs.Thresholds
import Enrollment.Proofs.Trail
import Enrollment.Proofs.Truncation
import Enrollment.Proofs.Verbosity
import Enrollment.Version

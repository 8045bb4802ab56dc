import HttpTemplate.Main
import HttpTemplate.Session
import HttpTemplate.Proofs.Assembly
import HttpTemplate.Proofs.Delivery
import HttpTemplate.Proofs.Json.Scalars
import HttpTemplate.Proofs.Json.Strings
import HttpTemplate.Proofs.Literals
import HttpTemplate.Proofs.Parameters
import HttpTemplate.Proofs.Placeholder.Concatenation
import HttpTemplate.Proofs.Queries
import HttpTemplate.Proofs.Construction
import HttpTemplate.Proofs.Contents
import HttpTemplate.Proofs.Sessions
import HttpTemplate.Proofs.Settling
import HttpTemplate.Proofs.Headers
import HttpTemplate.Proofs.Json.RoundTrip
import HttpTemplate.Proofs.Echo
import HttpTemplate.Proofs.Agent
import HttpTemplate.Proofs.Classification
import HttpTemplate.Proofs.Descriptors
import HttpTemplate.Proofs.CommandLine.Endings
import HttpTemplate.Proofs.Defaults
import HttpTemplate.Proofs.BodyLimit
import HttpTemplate.Proofs.Query.Flatten
import HttpTemplate.Proofs.Multipart
import HttpTemplate.Proofs.Messages
import HttpTemplate.Proofs.Refusals
import HttpTemplate.Proofs.Shapes
import HttpTemplate.Proofs.CommandLine.Output
import HttpTemplate.Proofs.TypedText
import HttpTemplate.Proofs.Operations
import HttpTemplate.Proofs.CommandLine.Assignments
import HttpTemplate.Proofs.Log.Calls
import HttpTemplate.Proofs.Uploads

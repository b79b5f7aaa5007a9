import ResourceTemplate.Cluster.Apply
import ResourceTemplate.Cluster.Http
import ResourceTemplate.Cluster.Memory
import ResourceTemplate.Cluster.Script
import ResourceTemplate.Main
import ResourceTemplate.Proofs.Cluster.Address
import ResourceTemplate.Proofs.Cluster.Aftermath
import ResourceTemplate.Proofs.Cluster.LostUpdate
import ResourceTemplate.Proofs.Cluster.Reapplication
import ResourceTemplate.Proofs.Cluster.Report
import ResourceTemplate.Proofs.Cluster.Writes
import ResourceTemplate.Proofs.Command.Plan
import ResourceTemplate.Proofs.Command.Precedence
import ResourceTemplate.Proofs.Command.Run
import ResourceTemplate.Proofs.Document.Record
import ResourceTemplate.Proofs.Document.Refinement
import ResourceTemplate.Proofs.Expansion.Descent
import ResourceTemplate.Proofs.Expansion.Independence
import ResourceTemplate.Proofs.Expansion.Namespace
import ResourceTemplate.Proofs.Expansion.Preparation
import ResourceTemplate.Proofs.Expansion.Reexpansion
import ResourceTemplate.Proofs.Expansion.Unreferenced
import ResourceTemplate.Proofs.Expression.Directive
import ResourceTemplate.Proofs.Expression.Grammar
import ResourceTemplate.Proofs.Expression.Reachability
import ResourceTemplate.Proofs.Json.Numeral
import ResourceTemplate.Proofs.Manifest.Conversion
import ResourceTemplate.Proofs.Manifest.Registration
import ResourceTemplate.Proofs.Notation.Fraction
import ResourceTemplate.Proofs.Notation.Json
import ResourceTemplate.Proofs.Notation.Numeral
import ResourceTemplate.Proofs.Notation.Refinement
import ResourceTemplate.Proofs.Notation.Scalar
import ResourceTemplate.Proofs.Notation.Scan
import ResourceTemplate.Proofs.Notation.Tokens
import ResourceTemplate.Proofs.Notation.Tree
import ResourceTemplate.Proofs.Rendering.Dependence
import ResourceTemplate.Proofs.Rendering.Override
import ResourceTemplate.Proofs.Rendering.Selection
import ResourceTemplate.Proofs.Rendering.Session
import ResourceTemplate.Proofs.Schema.Refinement
import ResourceTemplate.Proofs.Template.Notation
import ResourceTemplate.Proofs.Template.RoundTrip
import ResourceTemplate.Proofs.Yaml.Content
import ResourceTemplate.Proofs.Yaml.Separation
import ResourceTemplate.Template.Write

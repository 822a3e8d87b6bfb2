import SdkBlueprint.Main
import SdkBlueprint.Proofs.Closure
import SdkBlueprint.Proofs.Identifiers
import SdkBlueprint.Proofs.Inheritance
import SdkBlueprint.Proofs.Population.Required
import SdkBlueprint.Proofs.Population.Sessions
import SdkBlueprint.Proofs.Renaming
import SdkBlueprint.Proofs.Services.Stability
import SdkBlueprint.Proofs.Typed
import SdkBlueprint.Proofs.Unions
import SdkBlueprint.Proofs.Schema.WellFormed
import SdkBlueprint.Proofs.Document.YamlScalars
import SdkBlueprint.Proofs.Document.YamlContent
import SdkBlueprint.Proofs.Document.YamlLexer
import SdkBlueprint.Proofs.Document.YamlNode
import SdkBlueprint.Proofs.Loading
import SdkBlueprint.Proofs.Schema.Failures
import SdkBlueprint.Proofs.Population.Failures
import SdkBlueprint.Proofs.Services.Failures
import SdkBlueprint.Proofs.Console.Escaping
import SdkBlueprint.Proofs.Console.Messages
import SdkBlueprint.Proofs.CommandLine.Stages
import SdkBlueprint.Proofs.Blueprint.Json
import SdkBlueprint.Proofs.CommandLine.Runs
import SdkBlueprint.Proofs.Services.Merging
import SdkBlueprint.Proofs.Services.Parameters
import SdkBlueprint.Proofs.Services.Chains
import SdkBlueprint.Proofs.Schema.Containers
import SdkBlueprint.Proofs.Sanitizing
import SdkBlueprint.Proofs.Blueprint.Validator
import SdkBlueprint.Proofs.Naming.OperationName
import SdkBlueprint.Proofs.Naming.Kebab
import SdkBlueprint.Proofs.Settings.Layers
import SdkBlueprint.Proofs.Console.Renderings
import SdkBlueprint.Proofs.Schema.Pointers
import SdkBlueprint.Proofs.Services.Collisions
import SdkBlueprint.Proofs.Versions
import SdkBlueprint.Proofs.Blueprint.Faithful
import SdkBlueprint.Proofs.Services.MethodNames

import SampleGrpc.Auth.Mediation
import SampleGrpc.Auth.Profiles
import SampleGrpc.Auth.Binding
import SampleGrpc.Auth.Secret
import SampleGrpc.Auth.FirstSignIn
import SampleGrpc.Auth.ChosenName
import SampleGrpc.Auth.ProfileUpdate
import SampleGrpc.Auth.Collisions
import SampleGrpc.Auth.Handles
import SampleGrpc.Auth.ClearedName
import SampleGrpc.Auth.Identities
import SampleGrpc.Auth.Contest
import SampleGrpc.Auth.Privacy
import SampleGrpc.Auth.GoogleTokens
import SampleGrpc.Auth.Disclosure
import SampleGrpc.Server.Greeter
import SampleGrpc.Registry.Release
import SampleGrpc.Scripts.MintToken
import SampleGrpc.Web.Sessions
import SampleGrpc.Web.Site
import SampleGrpc.Web.Echo
import SampleGrpc.Web.Generated
import SampleGrpc.LoadTest.Report
import SampleGrpc.LoadTest.Deadline
import SampleGrpc.Auth.JwkDecoding
import SampleGrpc.Auth.KeyOrder
import SampleGrpc.Auth.Algorithms
import SampleGrpc.Scripts.RegistriesYaml
import SampleGrpc.Build.Coverage
import SampleGrpc.Build.ApiPaths

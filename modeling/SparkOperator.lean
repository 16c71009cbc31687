import SparkOperator.Go
import SparkOperator.Resources
import SparkOperator.MetricLabels
import SparkOperator.Metrics
import SparkOperator.MetricsRun
import SparkOperator.PodEventHandler
import SparkOperator.MutatePods
import SparkOperator.WebhookServe
import SparkOperator.CertProvider
import SparkOperator.WebhookRegistration
import SparkOperator.PrometheusMonitoring
import SparkOperator.CRDUpgrade
import SparkOperator.CRDStore
